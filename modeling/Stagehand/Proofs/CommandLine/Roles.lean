import Mathlib.Data.List.Basic
import Stagehand.Proofs.CommandLine.Content
import Stagehand.Proofs.Role

/-!
# Listed roles
The roles that may pass a check are listed by any number of flags, each with commas between its
roles. What is given by all of them is one list, and nothing else that is read depends on it.
-/

namespace Stagehand

namespace CommandLine

/-- The pieces of a text between commas. -/
def pieces (v : String) : List String := (cutAt ',' v.toList).map String.ofList

/-- The texts that stand for roles in a list. -/
def listed (items : List (Flag × String)) : List String :=
  items.flatMap fun i => if i.1 = .allowed then pieces i.2 else []

/-- The values that are given for anything but a list of roles. -/
def others (items : List (Flag × String)) : List (Flag × String) :=
  items.filter fun i => i.1 ≠ .allowed

variable {f : Flag} {v : String} {items : List (Flag × String)}

theorem listed_cons_allowed : listed ((.allowed, v) :: items) = pieces v ++ listed items := rfl

theorem listed_cons_of_ne (h : f ≠ .allowed) : listed ((f, v) :: items) = listed items := by
  rw [listed, List.flatMap_cons, if_neg h]
  rfl

theorem others_cons_allowed : others ((.allowed, v) :: items) = others items := rfl

theorem others_cons_of_ne (h : f ≠ .allowed) :
    others ((f, v) :: items) = (f, v) :: others items :=
  List.filter_cons_of_pos (decide_eq_true h)

theorem readRole_eq_ok_iff {r : Role} : readRole f v = .ok r ↔ r.slug = v := by
  rw [readRole, ← Role.ofText_eq_ok_iff]
  cases Role.ofText v with
  | ok r' => rw [Except.ok.injEq, Except.ok.injEq]
  | error e => exact ⟨nofun, nofun⟩

/-- A list of roles is read if all its pieces are slugs. -/
theorem readRoles_eq_ok_iff {rs : List Role} :
    readRoles f v = .ok rs ↔ rs.map Role.slug = pieces v := by
  rw [readRoles, pieces]
  generalize cutAt ',' v.toList = ps
  induction ps generalizing rs with
  | nil =>
    rw [List.mapM_nil, List.map_nil, List.map_eq_nil_iff]
    exact ⟨fun h => (Except.ok.inj h).symm, fun h => congrArg Except.ok h.symm⟩
  | cons p ps ih =>
    rw [List.mapM_cons, List.map_cons]
    constructor
    · intro h
      cases hp : readRole f (String.ofList p) with
      | error e =>
        rw [hp] at h
        cases h
      | ok r =>
        rw [hp] at h
        cases hps : ps.mapM fun piece => readRole f (String.ofList piece) with
        | error e =>
          simp only [hps] at h
          cases h
        | ok rs' =>
          simp only [hps] at h
          cases h
          rw [List.map_cons, readRole_eq_ok_iff.mp hp, ih.mp hps]
    · intro h
      obtain ⟨r, rs', rfl, hr, hrs⟩ := List.map_eq_cons_iff.mp h
      rw [readRole_eq_ok_iff.mpr hr, ih.mpr hrs]
      rfl

namespace Given

variable {g g' : Given}

theorem allowed_of_accept (hf : f ≠ .allowed) (h : g.accept f v = .ok g') :
    g'.allowed = g.allowed := by
  cases f <;> first | exact absurd rfl hf | exact eq_of_map Given.allowed h fun _ => rfl

theorem accept_allowed_eq_ok_iff :
    g.accept .allowed v = .ok g' ↔
      ∃ rs, rs.map Role.slug = pieces v ∧ g' = { g with allowed := g.allowed ++ rs } := by
  simp only [accept, ← readRoles_eq_ok_iff (f := .allowed)]
  cases readRoles .allowed v with
  | error e => exact ⟨nofun, nofun⟩
  | ok rs =>
    constructor
    · intro h
      exact ⟨rs, rfl, (Except.ok.inj h).symm⟩
    · rintro ⟨rs', h, rfl⟩
      cases h
      rfl

end Given

/-- Lists of roles add up, and apart from them the other values are taken as if they stood alone. -/
theorem acceptAll_others {g g' : Given} (h : acceptAll g items = .ok g') :
    acceptAll (g.clear .allowed) (others items) = .ok (g'.clear .allowed) ∧
      g'.allowed.map Role.slug = g.allowed.map Role.slug ++ listed items := by
  induction items generalizing g with
  | nil =>
    cases h
    exact ⟨rfl, (List.append_nil _).symm⟩
  | cons i items ih =>
    obtain ⟨f, v⟩ := i
    obtain ⟨g₁, haccept, h⟩ := acceptAll_cons_eq_ok_iff.mp h
    obtain ⟨hothers, hlisted⟩ := ih h
    by_cases hf : f = .allowed
    · subst hf
      obtain ⟨rs, hrs, rfl⟩ := Given.accept_allowed_eq_ok_iff.mp haccept
      rw [others_cons_allowed, listed_cons_allowed, ← hrs, hlisted, List.map_append,
        List.append_assoc]
      exact ⟨hothers, rfl⟩
    · rw [others_cons_of_ne hf, listed_cons_of_ne hf, hlisted, Given.allowed_of_accept hf haccept]
      refine ⟨acceptAll_cons_eq_ok_iff.mpr ⟨g₁.clear .allowed, ?_, hothers⟩, rfl⟩
      rw [Given.accept_clear hf, haccept]
      rfl

/-- Roles can be listed in any way between the other values. -/
theorem acceptAll_of_others {g k : Given} {rs : List Role}
    (hothers : acceptAll (g.clear .allowed) (others items) = .ok k)
    (hlisted : rs.map Role.slug = listed items) :
    acceptAll g items = .ok { k with allowed := g.allowed ++ rs } := by
  induction items generalizing g rs with
  | nil =>
    cases hothers
    obtain rfl := List.map_eq_nil_iff.mp hlisted
    rw [List.append_nil]
    rfl
  | cons i items ih =>
    obtain ⟨f, v⟩ := i
    by_cases hf : f = .allowed
    · subst hf
      rw [listed_cons_allowed] at hlisted
      obtain ⟨rs₁, rs₂, rfl, hrs₁, hrs₂⟩ := List.map_eq_append_iff.mp hlisted
      refine acceptAll_cons_eq_ok_iff.mpr
        ⟨{ g with allowed := g.allowed ++ rs₁ }, ?_, ?_⟩
      · exact Given.accept_allowed_eq_ok_iff.mpr ⟨rs₁, hrs₁, rfl⟩
      · rw [← List.append_assoc]
        exact ih hothers hrs₂
    · rw [others_cons_of_ne hf] at hothers
      rw [listed_cons_of_ne hf] at hlisted
      obtain ⟨k₁, haccept, hothers⟩ := acceptAll_cons_eq_ok_iff.mp hothers
      rw [Given.accept_clear hf] at haccept
      cases hg : g.accept f v with
      | error e =>
        rw [hg] at haccept
        cases haccept
      | ok g₁ =>
        rw [hg] at haccept
        cases haccept
        rw [← Given.allowed_of_accept hf hg]
        exact acceptAll_cons_eq_ok_iff.mpr ⟨g₁, hg, ih hothers hlisted⟩

/-! ### Checks of roles -/

theorem checkRole_of_subcommand? {word : String} (h : subcommand? word = some .checkRole) :
    word = "check-role" := by
  rw [subcommand?] at h
  split at h
  · cases h
  · split at h
    · assumption
    · cases h

theorem actionOf_eq_checkRole_iff {level : Level} {g : Given} {c : RoleCheck} :
    actionOf level g = .ok (.checkRole c) ↔
      level = .checkRole ∧ ∃ role, g.role = some role ∧
        c = ⟨role, g.tenant, g.user, g.minimum, g.allowed⟩ := by
  rw [actionOf]
  by_cases hlevel : level = .checkRole
  · rw [if_pos hlevel]
    cases hrole : g.role with
    | none => exact ⟨nofun, nofun⟩
    | some role =>
      constructor
      · intro h
        cases h
        exact ⟨hlevel, role, rfl, rfl⟩
      · rintro ⟨-, _, hr, rfl⟩
        cases hr
        rfl
  · rw [if_neg hlevel]
    exact ⟨nofun, fun h => absurd h.1 hlevel⟩

/-- What was given before and after the name of the subcommand is what was asked for. -/
structure Asks (named : Option String) (a : Arguments) (c : RoleCheck) (earlier later : Given) :
    Prop where
  action : a.action = some (.checkRole c)
  check : actionOf .checkRole later = .ok (.checkRole c)
  path : configFileOf earlier.configFile named = .ok a.configFile
  overrides : a.overrides = later.overrides.or earlier.overrides

variable {named : Option String} {a : Arguments} {c : RoleCheck} {earlier later : Given}
  {arguments flags rest : List String} {before : List (Flag × String)}

/-- A check is asked for with its flags after the subcommand. -/
theorem parse_checkRole_of_asks (hflags : Spells .program flags before)
    (hearlier : acceptAll {} before = .ok earlier)
    (hlater : readSubcommand .checkRole {} .nothing rest = .ok later)
    (h : Asks named a c earlier later) :
    parse named (flags ++ "check-role" :: rest) = .ok a := by
  obtain ⟨items, hcomposed, hlater⟩ := readSubcommand_eq_ok_iff.mp hlater
  obtain ⟨path, overrides, action⟩ := a
  obtain ⟨rfl, hcheck, hpath, rfl⟩ := h
  refine parse_eq_ok_iff.mpr ⟨before ++ [], _, hflags.composed (.action rfl hcomposed), ?_⟩
  rw [List.append_nil]
  exact .action hearlier hlater hcheck hpath

theorem asks_of_parse (h : parse named arguments = .ok a) (hc : a.action = some (.checkRole c)) :
    ∃ flags rest before earlier later, arguments = flags ++ "check-role" :: rest ∧
      Spells .program flags before ∧ acceptAll {} before = .ok earlier ∧
      readSubcommand .checkRole {} .nothing rest = .ok later ∧ Asks named a c earlier later := by
  obtain ⟨before, after, hcomposed, hmeans⟩ := parse_eq_ok_iff.mp h
  obtain ⟨flags, tail, rfl, hflags, htail⟩ := hcomposed.spells
  cases hmeans with
  | plain => cases hc
  | action hearlier hlater haction hpath =>
    cases hc
    obtain ⟨-, ⟨⟩⟩ | ⟨-, word, rest, _, _, rfl, hword, hrest, ⟨⟩⟩ := htail
    obtain ⟨rfl, -⟩ := actionOf_eq_checkRole_iff.mp haction
    obtain rfl := checkRole_of_subcommand? hword
    exact ⟨flags, rest, before, _, _, rfl, hflags, hearlier,
      readSubcommand_eq_ok_iff.mpr ⟨_, hrest, hlater⟩, rfl, haction, hpath, rfl⟩

/-- In whatever way the roles of a check are listed, it is the same check of the same roles. -/
theorem parse_relisted (h : parse named arguments = .ok a) (hc : a.action = some (.checkRole c)) :
    ∃ flags before after tail items, Spells .program flags before ∧
      Spells .checkRole after items ∧ Ends tail ∧
      arguments = flags ++ "check-role" :: (after ++ tail) ∧
      c.allowed.map Role.slug = listed items ∧
      ∀ after' tail' items', Spells .checkRole after' items' → Ends tail' →
        others items' = others items → (∀ slug, slug ∈ listed items' ↔ slug ∈ listed items) →
        ∃ roles, (∀ r, r ∈ roles ↔ r ∈ c.allowed) ∧
          parse named (flags ++ "check-role" :: (after' ++ tail')) =
            .ok { a with action := some (.checkRole { c with allowed := roles }) } := by
  obtain ⟨flags, rest, before, earlier, later, rfl, hflags, hearlier, hread, hasks⟩ :=
    asks_of_parse h hc
  obtain ⟨after, tail, items, rfl, hafter, htail, hlater⟩ := spells_of_readSubcommand hread
  obtain ⟨-, role, hrole, hcheck⟩ := actionOf_eq_checkRole_iff.mp hasks.check
  obtain ⟨hothers, hlisted⟩ := acceptAll_others hlater
  have hallowed : c.allowed.map Role.slug = listed items := by
    rw [hcheck]
    exact hlisted
  refine ⟨flags, before, after, tail, items, hflags, hafter, htail, rfl, hallowed, ?_⟩
  intro after' tail' items' hafter' htail' hothers' hlisted'
  obtain ⟨roles, hroles⟩ : ∃ roles : List Role, roles.map Role.slug = listed items' := by
    rw [← Set.mem_range, Set.range_list_map]
    intro slug hslug
    rw [hlisted', ← hallowed] at hslug
    obtain ⟨r, -, hr⟩ := List.mem_map.mp hslug
    exact ⟨r, hr⟩
  have hlater' : acceptAll {} items' = .ok { later.clear .allowed with allowed := roles } :=
    acceptAll_of_others (hothers' ▸ hothers) hroles
  refine ⟨roles, fun r => ?_, ?_⟩
  · rw [← List.mem_map_of_injective Role.slug_injective, hroles, hlisted', ← hallowed,
      List.mem_map_of_injective Role.slug_injective]
  · have hread : readSubcommand .checkRole {} .nothing (after' ++ tail') =
        .ok { later.clear .allowed with allowed := roles } := by
      rw [(reads_readSubcommand _).append hafter' hlater']
      exact readSubcommand_of_ends htail'
    refine parse_checkRole_of_asks hflags hearlier hread
      (c := { c with allowed := roles }) ⟨rfl, ?_, hasks.path, hasks.overrides⟩
    refine actionOf_eq_checkRole_iff.mpr ⟨rfl, role, hrole, ?_⟩
    rw [hcheck]
    rfl

end CommandLine

end Stagehand
