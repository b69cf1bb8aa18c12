import Stagehand.Program.Run
import Stagehand.Proofs.CommandLine.Content

/-!
# Flags in any place
A flag that overrides a setting means the same wherever it stands among the other arguments: before
the word for an action or after it, and before or after other such flags.
-/

namespace Stagehand

namespace CommandLine

variable {f : Flag} {v : String} {g g' k : Given} {front back : List String}
  {items i₁ i₂ before before' : List (Flag × String)}
  {after after' : Option (Level × List (Flag × String))} {named : Option String} {a : Arguments}

theorem flag?_of_mem_overrides (hf : f ∈ Flag.overrides) (level : Level) :
    level.flag? f.name = some f := by
  simp only [Flag.overrides, List.mem_cons, List.not_mem_nil, or_false] at hf
  rcases hf with rfl | rfl | rfl | rfl | rfl <;> cases level <;> rfl

/-! ### One value more -/

theorem Overrides.or_assoc (o o₁ o₂ : Overrides) : (o.or o₁).or o₂ = o.or (o₁.or o₂) := by
  simp only [Overrides.or, Option.or_assoc]

/-- What is added to the arguments by a flag is what it overrides. -/
theorem Given.accept_of_clear (hf : f ∈ Flag.overrides) (hg : g.clear f = g) :
    g.accept f v = (({} : Given).accept f v).map fun k =>
      { g with overrides := k.overrides.or g.overrides } := by
  simp only [Flag.overrides, List.mem_cons, List.not_mem_nil, or_false] at hf
  obtain ⟨_, ⟨_, _, _, _, _⟩, _, _, _, _, _⟩ := g
  rcases hf with rfl | rfl | rfl | rfl | rfl <;> cases hg <;>
    · unfold accept
      exact map_map_eq fun x => by cases x <;> rfl

theorem Overrides.or_left_comm_of_clear (hg : g.clear f = g)
    (hk : ({} : Given).accept f v = .ok k) (o : Overrides) :
    g.overrides.or (k.overrides.or o) = k.overrides.or (g.overrides.or o) := by
  have hclear : k.clear f = {} := by
    rw [Given.clear_of_accept hk]
    cases f <;> rfl
  obtain ⟨_, ⟨_, _, _, _, _⟩, _, _, _, _, _⟩ := g
  obtain ⟨_, ⟨_, _, _, _, _⟩, _, _, _, _, _⟩ := k
  cases f <;> cases hg <;> cases hclear <;> rfl

theorem Given.clear_empty (f : Flag) : ({} : Given).clear f = {} := by
  cases f <;> rfl

/-- Nothing has been given for a flag without a value. -/
theorem clear_of_acceptAll (hitems : ∀ i ∈ items, i.1 ≠ f) (hg : g.clear f = g)
    (h : acceptAll g items = .ok g') : g'.clear f = g' := by
  induction items generalizing g with
  | nil =>
    cases h
    exact hg
  | cons i items ih =>
    obtain ⟨f₁, v₁⟩ := i
    obtain ⟨g₁, haccept, h⟩ := acceptAll_cons_eq_ok_iff.mp h
    obtain ⟨hi, hitems⟩ := List.forall_mem_cons.mp hitems
    refine ih hitems ?_ h
    have hclear := Given.accept_clear (g := g) (v := v₁) hi
    rw [hg, haccept] at hclear
    exact (Except.ok.inj hclear).symm

theorem acceptAll_insert_iff (hf : f ∈ Flag.overrides) (hitems : ∀ i ∈ i₁ ++ i₂, i.1 ≠ f) :
    acceptAll {} (i₁ ++ (f, v) :: i₂) = .ok g' ↔
      ∃ g k, acceptAll {} (i₁ ++ i₂) = .ok g ∧ ({} : Given).accept f v = .ok k ∧
        g.clear f = g ∧ g' = { g with overrides := k.overrides.or g.overrides } := by
  have hne : f ≠ .allowed := by
    rintro rfl
    exact absurd hf (by decide)
  rw [acceptAll_insert hne]
  constructor
  · rintro ⟨g, hg, haccept⟩
    have hclear := clear_of_acceptAll hitems (Given.clear_empty f) hg
    rw [Given.accept_of_clear hf hclear] at haccept
    cases hk : ({} : Given).accept f v with
    | error e =>
      rw [hk] at haccept
      cases haccept
    | ok k =>
      rw [hk] at haccept
      exact ⟨g, k, hg, rfl, hclear, (Except.ok.inj haccept).symm⟩
  · rintro ⟨g, k, hg, hk, hclear, rfl⟩
    refine ⟨g, hg, ?_⟩
    rw [Given.accept_of_clear hf hclear, hk]
    rfl

/-- Content that has gained a value. -/
inductive Gains (f : Flag) (v : String) : List (Flag × String) →
    Option (Level × List (Flag × String)) → List (Flag × String) →
    Option (Level × List (Flag × String)) → Prop
  | before (i₁ i₂ : List (Flag × String)) (after : Option (Level × List (Flag × String))) :
    Gains f v (i₁ ++ i₂) after (i₁ ++ (f, v) :: i₂) after
  | after (before : List (Flag × String)) (level : Level) (i₁ i₂ : List (Flag × String)) :
    Gains f v before (some (level, i₁ ++ i₂)) before (some (level, i₁ ++ (f, v) :: i₂))

/-- No value of content is one of a flag. -/
def Fresh (f : Flag) (before : List (Flag × String))
    (after : Option (Level × List (Flag × String))) : Prop :=
  (∀ i ∈ before, i.1 ≠ f) ∧ ∀ level items, after = some (level, items) → ∀ i ∈ items, i.1 ≠ f

/-- An override is added to what the content without it means. -/
theorem Gains.means_iff (h : Gains f v before after before' after') (hf : f ∈ Flag.overrides)
    (hfresh : Fresh f before after) :
    Means named before' after' a ↔
      ∃ a₀ k, Means named before after a₀ ∧ ({} : Given).accept f v = .ok k ∧
        a = { a₀ with overrides := k.overrides.or a₀.overrides } := by
  obtain ⟨hbefore, hafter⟩ := hfresh
  cases h with
  | before i₁ i₂ after =>
    -- what comes later goes before the value, which is none of those given later
    constructor
    · intro hmeans
      cases hmeans with
      | plain hgained hpath =>
        obtain ⟨g, k, hg, hk, -, rfl⟩ := (acceptAll_insert_iff hf hbefore).mp hgained
        exact ⟨_, k, .plain hg hpath, hk, rfl⟩
      | action hearlier hlater haction hpath =>
        obtain ⟨g, k, hg, hk, -, rfl⟩ := (acceptAll_insert_iff hf hbefore).mp hearlier
        refine ⟨_, k, .action hg hlater haction hpath, hk, ?_⟩
        have hclear := clear_of_acceptAll (hafter _ _ rfl) (Given.clear_empty f) hlater
        dsimp only
        rw [Overrides.or_left_comm_of_clear hclear hk]
    · rintro ⟨a₀, k, hmeans, hk, rfl⟩
      cases hmeans with
      | plain hg hpath =>
        have hclear := clear_of_acceptAll hbefore (Given.clear_empty f) hg
        exact .plain ((acceptAll_insert_iff hf hbefore).mpr ⟨_, k, hg, hk, hclear, rfl⟩) hpath
      | action hearlier hlater haction hpath =>
        have hclear := clear_of_acceptAll hbefore (Given.clear_empty f) hearlier
        have hclear' := clear_of_acceptAll (hafter _ _ rfl) (Given.clear_empty f) hlater
        dsimp only
        rw [← Overrides.or_left_comm_of_clear hclear' hk]
        exact .action ((acceptAll_insert_iff hf hbefore).mpr ⟨_, k, hearlier, hk, hclear, rfl⟩)
          hlater haction hpath
  | after before level i₁ i₂ =>
    constructor
    · intro hmeans
      cases hmeans with
      | action hearlier hlater haction hpath =>
        obtain ⟨g, k, hg, hk, -, rfl⟩ := (acceptAll_insert_iff hf (hafter _ _ rfl)).mp hlater
        refine ⟨_, k, .action hearlier hg haction hpath, hk, ?_⟩
        dsimp only
        rw [Overrides.or_assoc]
    · rintro ⟨a₀, k, hmeans, hk, rfl⟩
      cases hmeans with
      | action hearlier hlater haction hpath =>
        have hclear := clear_of_acceptAll (hafter _ _ rfl) (Given.clear_empty f) hlater
        dsimp only
        rw [← Overrides.or_assoc]
        exact .action hearlier ((acceptAll_insert_iff hf (hafter _ _ rfl)).mpr
          ⟨_, k, hlater, hk, hclear, rfl⟩) haction hpath

/-! ### A flag more -/

/-- The name in an argument that looks like a flag. -/
def nameIn? (argument : String) : Option String :=
  match shapeOf argument with
  | .long name _ => some name
  | _ => none

theorem nameIn?_of_long {argument name : String} {value : Option String}
    (h : shapeOf argument = .long name value) : nameIn? argument = some name := by
  rw [nameIn?, h]

/-- A flag stands among arguments. -/
def Mentions (f : Flag) (arguments : List String) : Prop :=
  ∃ argument ∈ arguments, nameIn? argument = some f.name

instance (f : Flag) (arguments : List String) : Decidable (Mentions f arguments) :=
  inferInstanceAs (Decidable (∃ argument ∈ arguments, nameIn? argument = some f.name))

theorem Mentions.cons {arguments : List String} (h : Mentions f arguments) (argument : String) :
    Mentions f (argument :: arguments) := by
  obtain ⟨other, hmem, h⟩ := h
  exact ⟨other, List.mem_cons_of_mem _ hmem, h⟩

theorem Fresh.cons {level : Level} {argument name : String} {value : Option String} {f₁ : Flag}
    {rest : List String} (h : Fresh f before after) (shape : shapeOf argument = .long name value)
    (flag : level.flag? name = some f₁) (hf : ¬Mentions f (argument :: rest)) :
    Fresh f ((f₁, v) :: before) after := by
  obtain ⟨hbefore, hafter⟩ := h
  refine ⟨List.forall_mem_cons.mpr ⟨?_, hbefore⟩, hafter⟩
  rintro rfl
  rw [← Level.name_of_flag? flag] at shape
  exact hf ⟨argument, List.mem_cons_self, nameIn?_of_long shape⟩

/-- The content of arguments without a flag has no value of it. -/
theorem Composed.fresh {level : Level} {arguments : List String}
    (h : Composed level arguments before after) (hf : ¬Mentions f arguments) :
    Fresh f before after := by
  induction h with
  | ends => exact ⟨nofun, nofun⟩
  | joined shape flag _ ih => exact (ih fun h => hf (h.cons _)).cons shape flag hf
  | apart shape flag _ _ ih => exact (ih fun h => hf ((h.cons _).cons _)).cons shape flag hf
  | action _ _ ih =>
    obtain ⟨hitems, -⟩ := ih fun h => hf (h.cons _)
    refine ⟨nofun, ?_⟩
    rintro _ _ ⟨⟩
    exact hitems

theorem Composed.insert (h : Composed .program (front ++ back) before after)
    (hapt : Apt front back) (hf : f ∈ Flag.overrides) (v : String) :
    ∃ before' after', Gains f v before after before' after' ∧
      Composed .program (front ++ f.given v :: back) before' after' := by
  have hback {level : Level} {i₂ : List (Flag × String)}
      {after : Option (Level × List (Flag × String))} (h : Composed level back i₂ after) :
      Composed level (f.given v :: back) ((f, v) :: i₂) after :=
    h.joined (shapeOf_given f v) (flag?_of_mem_overrides hf level)
  cases h.parts hapt with
  | before hfront hrest => exact ⟨_, _, .before _ _ after, hfront.composed (hback hrest)⟩
  | after hfront hrest => exact ⟨_, _, .after before _ _ _, hfront.composed (hback hrest)⟩

theorem Composed.remove (h : Composed .program (front ++ f.given v :: back) before' after') :
    ∃ before after, Gains f v before after before' after' ∧
      Composed .program (front ++ back) before after := by
  cases h.parts (apt_given front back f v) with
  | before hfront hback =>
    obtain ⟨i₂, rfl, -, hback⟩ := hback.of_given
    exact ⟨_, _, .before _ i₂ after', hfront.composed hback⟩
  | after hfront hback =>
    obtain ⟨i₂, rfl, -, hback⟩ := hback.of_given
    exact ⟨_, _, .after before' _ _ i₂, hfront.composed hback⟩

/-- A flag that overrides a setting adds its value to what is read without it, and nothing else. -/
theorem parse_insert_iff (hf : f ∈ Flag.overrides) (hapt : Apt front back)
    (hnot : ¬Mentions f (front ++ back)) :
    parse named (front ++ f.given v :: back) = .ok a ↔
      ∃ a₀ k, parse named (front ++ back) = .ok a₀ ∧ ({} : Given).accept f v = .ok k ∧
        a = { a₀ with overrides := k.overrides.or a₀.overrides } := by
  constructor
  · intro h
    obtain ⟨before', after', hcomposed', hmeans'⟩ := parse_eq_ok_iff.mp h
    obtain ⟨before, after, hgains, hcomposed⟩ := hcomposed'.remove
    obtain ⟨a₀, k, hmeans, hk⟩ := (hgains.means_iff hf (hcomposed.fresh hnot)).mp hmeans'
    exact ⟨a₀, k, parse_eq_ok_iff.mpr ⟨before, after, hcomposed, hmeans⟩, hk⟩
  · rintro ⟨a₀, k, h, hk⟩
    obtain ⟨before, after, hcomposed, hmeans⟩ := parse_eq_ok_iff.mp h
    obtain ⟨before', after', hgains, hcomposed'⟩ := hcomposed.insert hapt hf v
    have hmeans' := (hgains.means_iff hf (hcomposed.fresh hnot)).mpr ⟨a₀, k, hmeans, hk⟩
    exact parse_eq_ok_iff.mpr ⟨before', after', hcomposed', hmeans'⟩

/-! ### Flags in any place -/

/-- Flags are put among arguments. Each is put anywhere among the arguments and the flags that have
been put there already, so that they may come in any order. -/
inductive Placed (rest : List String) : List (Flag × String) → List String → Prop
  | nil : Placed rest [] rest
  | cons {f : Flag} {v : String} {flags : List (Flag × String)} (front back : List String)
      (h : Placed rest flags (front ++ back)) (hapt : Apt front back) :
    Placed rest ((f, v) :: flags) (front ++ f.given v :: back)

/-- Flags that may be put among arguments: each overrides a setting and is given once in all. -/
structure Placeable (rest : List String) (flags : List (Flag × String)) : Prop where
  overrides : ∀ i ∈ flags, i.1 ∈ Flag.overrides
  once : (flags.map Prod.fst).Nodup
  absent : ∀ i ∈ flags, ¬Mentions i.1 rest

variable {rest arguments : List String} {flags : List (Flag × String)}

theorem Placed.not_mentions (h : Placed rest flags arguments) (hrest : ¬Mentions f rest)
    (hflags : f ∉ flags.map Prod.fst) : ¬Mentions f arguments := by
  induction h with
  | nil => exact hrest
  | @cons f₁ v flags front back _ _ ih =>
    rw [List.map_cons, List.mem_cons, not_or] at hflags
    rintro ⟨argument, hmem, hname⟩
    rw [List.mem_append, List.mem_cons, or_left_comm, ← List.mem_append] at hmem
    rcases hmem with rfl | hmem
    · rw [nameIn?_of_long (shapeOf_given f₁ v), Option.some_inj] at hname
      exact hflags.1 (Flag.name_injective hname).symm
    · exact ih hflags.2 ⟨argument, hmem, hname⟩

/-- Flags that override settings add their values to what is read without them. -/
theorem parse_placed_iff (hplaceable : Placeable rest flags) (h : Placed rest flags arguments) :
    parse named arguments = .ok a ↔
      ∃ a₀ k, parse named rest = .ok a₀ ∧ acceptAll {} flags = .ok k ∧
        a = { a₀ with overrides := k.overrides.or a₀.overrides } := by
  induction h generalizing a with
  | nil =>
    constructor
    · intro h
      exact ⟨a, {}, h, rfl, rfl⟩
    · rintro ⟨a₀, _, h, ⟨⟩, rfl⟩
      exact h
  | @cons f v flags front back h hapt ih =>
    obtain ⟨hoverrides, honce, habsent⟩ := hplaceable
    obtain ⟨hf, hoverrides⟩ := List.forall_mem_cons.mp hoverrides
    obtain ⟨hnot, habsent⟩ := List.forall_mem_cons.mp habsent
    obtain ⟨hnew, honce⟩ := List.nodup_cons.mp honce
    have hflags : ∀ i ∈ [] ++ flags, i.1 ≠ f := by
      rintro i hi rfl
      exact hnew (List.mem_map.mpr ⟨i, hi, rfl⟩)
    rw [parse_insert_iff hf hapt (h.not_mentions hnot hnew)]
    simp only [ih ⟨hoverrides, honce, habsent⟩]
    constructor
    · rintro ⟨_, k, ⟨a₀, g, h, hg, rfl⟩, hk, rfl⟩
      have hclear := clear_of_acceptAll hflags (Given.clear_empty f) hg
      refine ⟨a₀, _, h, (acceptAll_insert_iff hf hflags).mpr ⟨g, k, hg, hk, hclear, rfl⟩, ?_⟩
      dsimp only
      rw [Overrides.or_assoc]
    · rintro ⟨a₀, k', h, hk', rfl⟩
      obtain ⟨g, k, hg, hk, -, rfl⟩ := (acceptAll_insert_iff hf hflags).mp hk'
      refine ⟨_, k, ⟨a₀, g, h, hg, rfl⟩, hk, ?_⟩
      dsimp only
      rw [Overrides.or_assoc]

end CommandLine

namespace Program

open CommandLine

/-- Arguments that load settings. -/
def Loads (env : Environment) (d : Settings.Directory) (arguments : List String)
    (settings : Settings) : Prop :=
  ∃ a, parse arguments env = .ok a ∧ Settings.load env d a = .ok settings

/-- Wherever flags that override settings stand, the arguments are read as the same or not at all,
and they load the same settings. What is read are the other arguments with what the flags add. -/
theorem parse_placed_eq {rest a b : List String} {flags : List (Flag × String)}
    (hflags : Placeable rest flags) (ha : Placed rest flags a) (hb : Placed rest flags b)
    (env : Environment) :
    ((∃ s s', parse a env = .error s ∧ parse b env = .error s') ∨
      ∃ x, parse a env = .ok x ∧ parse b env = .ok x) ∧
    (∀ x, parse a env = .ok x ↔ ∃ y k, parse rest env = .ok y ∧ acceptAll {} flags = .ok k ∧
      x = { y with overrides := k.overrides.or y.overrides }) ∧
    ∀ d settings, Loads env d a settings ↔ Loads env d b settings := by
  have hplaced {arguments : List String} (h : Placed rest flags arguments) {x : Arguments} :
      parse arguments env = .ok x ↔ ∃ y k, parse rest env = .ok y ∧
        acceptAll {} flags = .ok k ∧ x = { y with overrides := k.overrides.or y.overrides } :=
    parse_placed_iff hflags h
  have heq (x : Arguments) : parse a env = .ok x ↔ parse b env = .ok x :=
    (hplaced ha).trans (hplaced hb).symm
  refine ⟨?_, fun x => hplaced ha, fun d settings => ?_⟩
  · cases hread : parse a env with
    | ok x => exact .inr ⟨x, rfl, (heq x).mp hread⟩
    | error s =>
      cases hread' : parse b env with
      | ok x =>
        rw [(heq x).mpr hread'] at hread
        cases hread
      | error s' => exact .inl ⟨s, s', rfl, rfl⟩
  · simp only [Loads, heq]

/-- A URL and a format may be given before a check, or between its own flags. -/
theorem parse_placed_eq_checkRole :
    ∃ x, parse [Flag.cacheUrl.given "http://localhost", Flag.logJson.given "yes", "check-role",
        "--role", "fan", "--allowed=fan"] [] = .ok x ∧
      parse ["check-role", Flag.logJson.given "yes", "--role", "fan",
        Flag.cacheUrl.given "http://localhost", "--allowed=fan"] [] = .ok x ∧
      x = {
        overrides := { cacheUrl := some "http://localhost", logJson := some true }
        action := some (.checkRole { role := .fan, allowed := [.fan] }) } := by
  have hflags : Placeable ["check-role", "--role", "fan", "--allowed=fan"]
      [(.cacheUrl, "http://localhost"), (.logJson, "yes")] := ⟨by decide, by decide, by decide⟩
  have hfirst : Placed ["check-role", "--role", "fan", "--allowed=fan"]
      [(.cacheUrl, "http://localhost"), (.logJson, "yes")]
      [Flag.cacheUrl.given "http://localhost", Flag.logJson.given "yes", "check-role", "--role",
        "fan", "--allowed=fan"] :=
    .cons [] _ (.cons [] _ .nil (apt_nil _)) (apt_nil _)
  have hamong : Placed ["check-role", "--role", "fan", "--allowed=fan"]
      [(.cacheUrl, "http://localhost"), (.logJson, "yes")]
      ["check-role", Flag.logJson.given "yes", "--role", "fan",
        Flag.cacheUrl.given "http://localhost", "--allowed=fan"] :=
    .cons ["check-role", Flag.logJson.given "yes", "--role", "fan"] ["--allowed=fan"]
      (.cons ["check-role"] _ .nil (apt_of_word [] rfl _)) (apt_of_word [_, _, _] rfl _)
  obtain ⟨heither, hread, -⟩ := parse_placed_eq hflags hfirst hamong []
  have hfirst := (hread _).mpr
    ⟨{ action := some (.checkRole { role := .fan, allowed := [.fan] }) }, _, rfl, rfl, rfl⟩
  rcases heither with ⟨s, s', hs, -⟩ | ⟨x, hx, hx'⟩
  · rw [hs] at hfirst
    cases hfirst
  · rw [hx] at hfirst
    cases hfirst
    exact ⟨_, hx, hx', rfl⟩

end Program

end Stagehand
