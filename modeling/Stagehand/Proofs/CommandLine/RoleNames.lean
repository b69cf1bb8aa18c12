import Stagehand.Proofs.CommandLine.Roles
import Stagehand.Proofs.Session
import Stagehand.Proofs.Text.CodeTable

/-!
# Names of roles
A role goes by one name everywhere: in texts, in JSON strings however they are escaped, and as the
value of a flag. Whatever reads a name reads the same role, and what is no name is refused by all.
-/

namespace Stagehand

/-! ### Names in JSON texts -/

namespace Json

/-- A JSON text is a string. It may be written with escapes and stand between blanks. -/
def Denotes (literal text : String) : Prop :=
  ∃ r, Text (Utf8.ofString literal) text r ∧ Blanks r []

theorem Text.unique {s r r' : List Sym} {text text' : String} (h : Text s text r)
    (h' : Text s text' r') : text = text' := by
  have hread := reads_readText.iff.mpr h
  rw [reads_readText.iff.mpr h'] at hread
  cases hread
  rfl

theorem denotes_text (s : String) : Denotes (string s).text s := by
  have h := Session.text_stringChars s []
  rw [List.append_nil] at h
  refine ⟨[], ?_, .none []⟩
  rwa [Utf8.ofString, text, String.toList_ofList]

end Json

namespace Role

open Json

/-- A string is read as the role of which it is the slug, however it is written. -/
theorem parse_of_denotes {literal s : String} (h : Denotes literal s) {r : Role} :
    parse literal = .ok r ↔ r.slug = s := by
  obtain ⟨rest, htext, hblanks⟩ := h
  rw [parse, Json.read, readAll_eq_ok_iff]
  constructor
  · rintro ⟨rest', hread, -⟩
    cases read_eq_ok_iff.mp hread with
    | slug h => exact h.unique htext
    | tagged hmark =>
      obtain ⟨t, hquote, -⟩ := htext
      have hskip := (skipBlanks_eq_char_iff (by decide)).mpr hmark
      rw [(skipBlanks_eq_char_iff (by decide)).mpr hquote] at hskip
      cases hskip
  · rintro rfl
    exact ⟨rest, read_eq_ok_iff.mpr (.slug htext), hblanks⟩

theorem ofText_eq_error {s : String} (h : ∀ r : Role, r.slug ≠ s) : ofText s = .error ⟨s⟩ := by
  unfold ofText
  split
  · exact absurd rfl (h brandAdmin)
  · exact absurd rfl (h opsAdmin)
  · exact absurd rfl (h brandMember)
  · exact absurd rfl (h creator)
  · exact absurd rfl (h fan)
  · rfl

end Role

/-! ### Names in arguments -/

namespace CommandLine

variable {named : Option String} {front back : List String} {f : Flag} {v : String}
  {x y : Arguments} {g g' : Given}

/-- The flags whose values are names of roles. -/
def Flag.roles : List Flag := [role, minimum, allowed]

/-- What a check has in the place of a role that a flag gives. -/
inductive PutsRole : Flag → (Role → RoleCheck) → Prop
  | role (c : RoleCheck) : PutsRole .role fun r => { c with role := r }
  | minimum (c : RoleCheck) : PutsRole .minimum fun r => { c with minimum := some r }
  | allowed (c : RoleCheck) (before after : List Role) :
    PutsRole .allowed fun r => { c with allowed := before ++ r :: after }

/-- A flag is read between other arguments with some value. -/
def Takes (named : Option String) (front back : List String) (f : Flag) : Prop :=
  ∃ v x, parse named (front ++ f.given v :: back) = .ok x

theorem Given.accept_role_eq_ok_iff :
    g.accept .role v = .ok g' ↔
      g.role = none ∧ ∃ r : Role, r.slug = v ∧ g' = { g with role := some r } := by
  simp only [accept, map_once_eq_ok_iff, readRole_eq_ok_iff]

theorem Given.accept_minimum_eq_ok_iff :
    g.accept .minimum v = .ok g' ↔
      g.minimum = none ∧ ∃ r : Role, r.slug = v ∧ g' = { g with minimum := some r } := by
  simp only [accept, map_once_eq_ok_iff, readRole_eq_ok_iff]

theorem pieces_of_not_mem (h : ',' ∉ v.toList) : pieces v = [v] := by
  have hcut : cutAt ',' v.toList = [v.toList] := by
    refine cutWhere_of_forall fun c hc => beq_eq_false_iff_ne.mpr ?_
    rintro rfl
    exact h hc
  rw [pieces, hcut, List.map_singleton, String.ofList_toList]

theorem not_mem_slug (r : Role) : ',' ∉ r.slug.toList := by
  cases r <;> decide

theorem eq_checkRole_of_flag? {level : Level} (hf : f ∈ Flag.roles)
    (h : level.flag? f.name = some f) : level = .checkRole := by
  simp only [Flag.roles, List.mem_cons, List.not_mem_nil, or_false] at hf
  rcases hf with rfl | rfl | rfl <;> cases level <;> first | rfl | cases h

/-- A flag that gives a role stands after the word for a check, whatever its value. -/
theorem Composed.given {before : List (Flag × String)}
    {after : Option (Level × List (Flag × String))} (hf : f ∈ Flag.roles)
    (h : Composed .program (front ++ f.given v :: back) before after) :
    ∃ i₁ i₂, after = some (.checkRole, i₁ ++ (f, v) :: i₂) ∧
      ∀ s, Composed .program (front ++ f.given s :: back) before
        (some (.checkRole, i₁ ++ (f, s) :: i₂)) := by
  cases h.parts (apt_given front back f v) with
  | before _ hback =>
    obtain ⟨i₂, rfl, hflag, -⟩ := hback.of_given
    cases eq_checkRole_of_flag? hf hflag
  | after hfront hback =>
    obtain ⟨i₂, rfl, hflag, hback⟩ := hback.of_given
    obtain rfl := eq_checkRole_of_flag? hf hflag
    exact ⟨_, i₂, rfl, fun s => hfront.composed (hback.joined (shapeOf_given f s) hflag)⟩

/-- What is read from the other arguments does not depend on the value of a flag that gives a
role, as long as that value is accepted. -/
theorem acceptAll_of_parse (hf : f ∈ Flag.roles)
    (h : parse named (front ++ f.given v :: back) = .ok x) :
    ∃ i₁ i₂ later c, acceptAll {} (i₁ ++ (f, v) :: i₂) = .ok later ∧
      actionOf .checkRole later = .ok (.checkRole c) ∧
      ∀ s later' c', acceptAll {} (i₁ ++ (f, s) :: i₂) = .ok later' →
        later'.overrides = later.overrides → actionOf .checkRole later' = .ok (.checkRole c') →
        parse named (front ++ f.given s :: back) =
          .ok { x with action := some (.checkRole c') } := by
  obtain ⟨before, after, hcomposed, hmeans⟩ := parse_eq_ok_iff.mp h
  obtain ⟨i₁, i₂, rfl, hgiven⟩ := hcomposed.given hf
  cases hmeans with
  | @action _ _ earlier later path action hearlier hlater haction hpath =>
    obtain ⟨c, rfl⟩ : ∃ c, action = .checkRole c := by
      rw [actionOf, if_pos rfl] at haction
      split at haction
      · cases haction
        exact ⟨_, rfl⟩
      · cases haction
    refine ⟨i₁, i₂, later, c, hlater, haction, fun s later' c' hlater' hoverrides haction' => ?_⟩
    refine parse_eq_ok_iff.mpr ⟨before, _, hgiven s, ?_⟩
    dsimp only
    rw [← hoverrides]
    exact .action hearlier hlater' haction' hpath

/-- The value of a flag that gives a role is the slug of one. -/
theorem exists_slug_of_parse (hf : f ∈ Flag.roles) (hv : f = .allowed → ',' ∉ v.toList)
    (h : parse named (front ++ f.given v :: back) = .ok x) : ∃ r : Role, r.slug = v := by
  obtain ⟨i₁, i₂, later, -, hlater, -, -⟩ := acceptAll_of_parse hf h
  obtain ⟨g₁, -, hlater⟩ := acceptAll_append.mp hlater
  obtain ⟨g₂, haccept, -⟩ := acceptAll_cons_eq_ok_iff.mp hlater
  simp only [Flag.roles, List.mem_cons, List.not_mem_nil, or_false] at hf
  rcases hf with rfl | rfl | rfl
  · obtain ⟨-, r, hr, -⟩ := Given.accept_role_eq_ok_iff.mp haccept
    exact ⟨r, hr⟩
  · obtain ⟨-, r, hr, -⟩ := Given.accept_minimum_eq_ok_iff.mp haccept
    exact ⟨r, hr⟩
  · obtain ⟨rs, hrs, -⟩ := Given.accept_allowed_eq_ok_iff.mp haccept
    rw [pieces_of_not_mem (hv rfl)] at hrs
    obtain ⟨r, -, -, hr, -⟩ := List.map_eq_cons_iff.mp hrs
    exact ⟨r, hr⟩

/-- Where some value is accepted, the slug of any role is, and puts that role in its place. -/
theorem exists_putsRole_of_parse (hf : f ∈ Flag.roles)
    (h : parse named (front ++ f.given v :: back) = .ok x) :
    ∃ put, PutsRole f put ∧ ∀ r : Role, parse named (front ++ f.given r.slug :: back) =
      .ok { x with action := some (.checkRole (put r)) } := by
  obtain ⟨i₁, i₂, later, c, hlater, haction, hparse⟩ := acceptAll_of_parse hf h
  obtain ⟨-, ρ, hρ, rfl⟩ := actionOf_eq_checkRole_iff.mp haction
  simp only [Flag.roles, List.mem_cons, List.not_mem_nil, or_false] at hf
  rcases hf with rfl | rfl | rfl
  · obtain ⟨g, hg, haccept⟩ := (acceptAll_insert (by decide)).mp hlater
    obtain ⟨hnone, r₀, -, rfl⟩ := Given.accept_role_eq_ok_iff.mp haccept
    refine ⟨_, .role ⟨ρ, g.tenant, g.user, g.minimum, g.allowed⟩, fun r => ?_⟩
    refine hparse r.slug { g with role := some r } _ ?_ rfl ?_
    · exact (acceptAll_insert (by decide)).mpr
        ⟨g, hg, Given.accept_role_eq_ok_iff.mpr ⟨hnone, r, rfl, rfl⟩⟩
    · exact actionOf_eq_checkRole_iff.mpr ⟨rfl, r, rfl, rfl⟩
  · obtain ⟨g, hg, haccept⟩ := (acceptAll_insert (by decide)).mp hlater
    obtain ⟨hnone, r₀, -, rfl⟩ := Given.accept_minimum_eq_ok_iff.mp haccept
    refine ⟨_, .minimum ⟨ρ, g.tenant, g.user, g.minimum, g.allowed⟩, fun r => ?_⟩
    refine hparse r.slug { g with minimum := some r } _ ?_ rfl ?_
    · exact (acceptAll_insert (by decide)).mpr
        ⟨g, hg, Given.accept_minimum_eq_ok_iff.mpr ⟨hnone, r, rfl, rfl⟩⟩
    · exact actionOf_eq_checkRole_iff.mpr ⟨rfl, ρ, hρ, rfl⟩
  · obtain ⟨g₁, hg₁, hlater⟩ := acceptAll_append.mp hlater
    obtain ⟨g₂, haccept, hlater⟩ := acceptAll_cons_eq_ok_iff.mp hlater
    obtain ⟨rs, -, rfl⟩ := Given.accept_allowed_eq_ok_iff.mp haccept
    obtain ⟨hothers, hlisted⟩ := acceptAll_others hlater
    obtain ⟨-, rest, -, -, hrest⟩ := List.map_eq_append_iff.mp hlisted
    refine ⟨_, .allowed ⟨ρ, later.tenant, later.user, later.minimum, later.allowed⟩ g₁.allowed rest,
      fun r => ?_⟩
    have hpieces : [r].map Role.slug = pieces r.slug :=
      (pieces_of_not_mem (not_mem_slug r)).symm
    have hlater' := acceptAll_of_others (g := { g₁ with allowed := g₁.allowed ++ [r] })
      hothers hrest
    refine hparse r.slug _ _ (acceptAll_append.mpr ⟨g₁, hg₁, acceptAll_cons_eq_ok_iff.mpr
      ⟨_, Given.accept_allowed_eq_ok_iff.mpr ⟨[r], hpieces, rfl⟩, hlater'⟩⟩) rfl ?_
    refine actionOf_eq_checkRole_iff.mpr ⟨rfl, ρ, hρ, ?_⟩
    dsimp only
    rw [List.append_assoc]
    rfl

/-- Where a flag that gives a role is read at all, it is read as a role with the slug of that role
as its value, and with no other value. -/
theorem exists_putsRole_iff (hf : f ∈ Flag.roles) (h : Takes named front back f) :
    ∃ (x : Arguments) (put : Role → RoleCheck), PutsRole f put ∧
      ∀ s, (f = .allowed → ',' ∉ s.toList) → ∀ y,
        parse named (front ++ f.given s :: back) = .ok y ↔
          ∃ r : Role, r.slug = s ∧ y = { x with action := some (.checkRole (put r)) } := by
  obtain ⟨v, x, h⟩ := h
  obtain ⟨put, hput, hparse⟩ := exists_putsRole_of_parse hf h
  refine ⟨x, put, hput, fun s hs y => ?_⟩
  constructor
  · intro hy
    obtain ⟨r, rfl⟩ := exists_slug_of_parse hf hs hy
    rw [hparse] at hy
    exact ⟨r, rfl, (Except.ok.inj hy).symm⟩
  · rintro ⟨r, rfl, rfl⟩
    exact hparse r

theorem exists_error_of_ne_slug (hf : f ∈ Flag.roles) (hv : f = .allowed → ',' ∉ v.toList)
    (h : ∀ r : Role, r.slug ≠ v) : ∃ e, parse named (front ++ f.given v :: back) = .error e := by
  cases hread : parse named (front ++ f.given v :: back) with
  | error e => exact ⟨e, rfl⟩
  | ok x =>
    obtain ⟨r, hr⟩ := exists_slug_of_parse hf hv hread
    exact absurd hr (h r)

end CommandLine

namespace Role

open CommandLine in
/-- All readers and writers of the names of roles agree. A text is read as a role if it is the slug
of the role, and so is every JSON string of that text. Where a flag that gives a role is read with
some value, it is read with such a text, and with no other that has no comma: whatever else is
asked for, the role is put in its place. Roles are shown and written as their slugs. A text that is
no slug is refused by all readers, wherever it stands. -/
theorem names_agree :
    (∀ s r, ofText s = .ok r ↔ s = r.slug) ∧
    (∀ literal s, Json.Denotes literal s → ∀ r, Role.parse literal = .ok r ↔ s = r.slug) ∧
    (∀ named front back f, f ∈ Flag.roles → Takes named front back f →
      ∃ (x : Arguments) (put : Role → RoleCheck), PutsRole f put ∧
        ∀ s, (f = .allowed → ',' ∉ s.toList) → ∀ y,
          CommandLine.parse named (front ++ f.given s :: back) = .ok y ↔
            ∃ r, s = r.slug ∧ y = { x with action := some (.checkRole (put r)) }) ∧
    (∀ r : Role, toString r = r.slug ∧ r.toJson = .string r.slug ∧
      Json.Denotes r.toJson.text r.slug ∧ Role.parse r.toJson.text = .ok r) ∧
    ∀ s, (∀ r : Role, s ≠ r.slug) → ofText s = .error ⟨s⟩ ∧
      (∀ literal, Json.Denotes literal s → ∃ e, Role.parse literal = .error e) ∧
      ∀ named front back f, f ∈ Flag.roles → (f = .allowed → ',' ∉ s.toList) →
        ∃ e, CommandLine.parse named (front ++ f.given s :: back) = .error e := by
  have hparse (literal s : String) (h : Json.Denotes literal s) (r : Role) :
      Role.parse literal = .ok r ↔ s = r.slug := by
    rw [parse_of_denotes h, eq_comm]
  refine ⟨fun s r => ?_, hparse, ?_, fun r => ?_, fun s h => ?_⟩
  · rw [ofText_eq_ok_iff, eq_comm]
  · intro named front back f hf htakes
    obtain ⟨x, put, hput, hread⟩ := exists_putsRole_iff hf htakes
    refine ⟨x, put, hput, fun s hs y => ?_⟩
    simp only [hread s hs y, eq_comm (a := s)]
  · have hjson : r.toJson = .string r.slug := by rw [toJson, jsonName_eq_slug]
    have htext : Json.Denotes r.toJson.text r.slug := hjson ▸ Json.denotes_text r.slug
    exact ⟨rfl, hjson, htext, (hparse _ _ htext r).mpr rfl⟩
  · have hne (r : Role) : r.slug ≠ s := fun hr => h r hr.symm
    refine ⟨ofText_eq_error hne, fun literal hliteral => ?_, fun named front back f hf hs => ?_⟩
    · cases hread : Role.parse literal with
      | error e => exact ⟨e, rfl⟩
      | ok r => exact absurd ((hparse literal s hliteral r).mp hread) (h r)
    · exact exists_error_of_ne_slug hf hs hne

open CommandLine in
/-- An escape in a JSON string, a role in a list, and texts that are no names because of a capital
or a space. -/
theorem names_agree_escaped :
    Role.parse "\"\\u0066an\"" = .ok fan ∧
    (∃ (x : Arguments) (put : Role → RoleCheck), PutsRole .allowed put ∧
      CommandLine.parse none ["check-role", "--role=fan", Flag.allowed.given "creator"] =
        .ok { x with action := some (.checkRole (put creator)) }) ∧
    ofText "Fan" = .error ⟨"Fan"⟩ ∧
    ∃ e, CommandLine.parse none ["check-role", Flag.role.given " fan"] = .error e := by
  obtain ⟨-, hjson, hflags, -, hrefused⟩ := names_agree
  have htakes : Takes none ["check-role", "--role=fan"] [] .allowed := ⟨"fan", _, rfl⟩
  obtain ⟨x, put, hput, hread⟩ := hflags _ _ _ _ (by decide) htakes
  have hunit : Json.HexUnit (Utf8.ofString "0066an\"") 0x66 (Utf8.ofString "an\"") :=
    .digits (i := 0) (j := 0) (k := 6) (l := 6) (by decide) (by decide) (by decide) (by decide)
  have hletters : Json.Letters (Utf8.ofString "\\u0066an\"") ['f', 'a', 'n'] [] :=
    .escape (.unit hunit rfl rfl) (.plain ⟨by decide, by decide, by decide⟩
      (.plain ⟨by decide, by decide, by decide⟩ (.close [])))
  have hdenotes : Json.Denotes "\"\\u0066an\"" "fan" := ⟨[], ⟨_, .none _, hletters⟩, .none []⟩
  refine ⟨(hjson _ _ hdenotes fan).mpr rfl, ⟨x, put, hput, ?_⟩, ?_, ?_⟩
  · exact (hread "creator" (fun _ => by decide) _).mpr ⟨creator, rfl, rfl⟩
  · exact (hrefused "Fan" (by rintro (_ | _) <;> decide)).1
  · refine (hrefused " fan" ?_).2.2 none ["check-role"] [] .role (by decide) nofun
    rintro (_ | _) <;> decide

end Role

end Stagehand
