import Stagehand.Proofs.CommandLine.Flags

/-!
# The content of a command line
Arguments without a fault are flags with their values, the word for an action perhaps, and more
flags. What they are read as depends on nothing else: neither on how a value is joined to its flag
nor, apart from roles in a list, on the order of the values.
-/

namespace Stagehand.CommandLine

variable {level : Level} {f f' : Flag} {v v' : String} {g g' g'' : Given}

/-! ### Values in any order -/

namespace Given

/-- Two values are taken if both are right, where the second does not depend on the first. -/
theorem exists_map_iff {α β : Type} {x : Except UsageError α} {y : Except UsageError β}
    {s : α → Given} {F : Given → Except UsageError Given} (both : α → β → Given)
    (hF : ∀ a, F (s a) = y.map (both a)) :
    (∃ g₁, x.map s = .ok g₁ ∧ F g₁ = .ok g') ↔ ∃ a b, x = .ok a ∧ y = .ok b ∧ both a b = g' := by
  constructor
  · rintro ⟨g₁, h, h'⟩
    cases x with
    | error e => cases h
    | ok a =>
      cases h
      rw [hF] at h'
      cases y with
      | error e => cases h'
      | ok b => exact ⟨a, b, rfl, rfl, Except.ok.inj h'⟩
  · rintro ⟨a, b, rfl, rfl, rfl⟩
    exact ⟨s a, rfl, hF a⟩

theorem exists_map_comm {α β : Type} {x : Except UsageError α} {y : Except UsageError β}
    {s : α → Given} {t : β → Given} {F G : Given → Except UsageError Given}
    (both : α → β → Given) (hF : ∀ a, F (s a) = y.map (both a))
    (hG : ∀ b, G (t b) = x.map fun a => both a b) :
    (∃ g₁, x.map s = .ok g₁ ∧ F g₁ = .ok g') ↔ ∃ g₁, y.map t = .ok g₁ ∧ G g₁ = .ok g' := by
  rw [exists_map_iff both hF, exists_map_iff (fun b a => both a b) hG, exists_comm]
  simp only [and_left_comm]

/-- What may be given once has not been given before, and has been given afterwards. -/
theorem map_once_eq_ok_iff {α : Type} {old : Option α} {new : Except UsageError α}
    {set : Option α → Given} :
    (once f old new).map set = .ok g' ↔ old = none ∧ ∃ a, new = .ok a ∧ g' = set (some a) := by
  cases old with
  | some a => exact ⟨nofun, nofun⟩
  | none =>
    cases new with
    | error e =>
      constructor
      · intro h
        cases h
      · rintro ⟨-, a, ⟨⟩, -⟩
    | ok a =>
      constructor
      · intro h
        cases h
        exact ⟨rfl, a, rfl, rfl⟩
      · rintro ⟨-, _, ⟨⟩, rfl⟩
        rfl

theorem ne_ok_of_map_once {α : Type} {old : Option α} {new : Except UsageError α}
    {set : Option α → Given} (F : Given → Except UsageError Given)
    (h : (once f old new).map set = .ok g)
    (hF : ∀ a, F (set (some a)) = .error (.repeatedFlag f)) : F g ≠ .ok g' := by
  obtain ⟨-, a, -, rfl⟩ := map_once_eq_ok_iff.mp h
  rw [hF]
  nofun

/-- A value other than a list of roles is given once. -/
theorem accept_twice (hf : f ≠ .allowed) (h : g.accept f v = .ok g') :
    g'.accept f v' ≠ .ok g'' := by
  cases f <;>
    first
    | exact absurd rfl hf
    | exact ne_ok_of_map_once (fun g => g.accept _ v') h fun _ => rfl

/-- Values of two flags are taken in either order. -/
theorem accept_comm (hf : f ≠ .allowed) :
    (∃ g₁, g.accept f v = .ok g₁ ∧ g₁.accept f' v' = .ok g') ↔
      ∃ g₁, g.accept f' v' = .ok g₁ ∧ g₁.accept f v = .ok g' := by
  by_cases h : f = f'
  · subst h
    constructor
    · rintro ⟨g₁, h, h'⟩
      exact absurd h' (accept_twice hf h)
    · rintro ⟨g₁, h, h'⟩
      exact absurd h' (accept_twice hf h)
  -- each flag has a part of its own, and whether a value is right depends on that part only
  · cases f <;> cases f' <;>
      first
      | exact absurd rfl h
      | exact exists_map_comm _ (fun _ => rfl) (fun _ => rfl)

end Given

section AcceptAll

variable {i₁ i₂ : List (Flag × String)}

theorem acceptAll_append :
    acceptAll g (i₁ ++ i₂) = .ok g' ↔
      ∃ g₁, acceptAll g i₁ = .ok g₁ ∧ acceptAll g₁ i₂ = .ok g' := by
  induction i₁ generalizing g with
  | nil =>
    constructor
    · intro h
      exact ⟨g, rfl, h⟩
    · rintro ⟨_, ⟨⟩, h⟩
      exact h
  | cons i i₁ ih =>
    obtain ⟨f, v⟩ := i
    simp only [List.cons_append, acceptAll_cons_eq_ok_iff, ih]
    constructor
    · rintro ⟨g₁, h, g₂, h₁, h₂⟩
      exact ⟨g₂, ⟨g₁, h, h₁⟩, h₂⟩
    · rintro ⟨g₂, ⟨g₁, h, h₁⟩, h₂⟩
      exact ⟨g₁, h, g₂, h₁, h₂⟩

/-- A value other than a list of roles may as well come last. -/
theorem acceptAll_cons_comm (hf : f ≠ .allowed) :
    acceptAll g ((f, v) :: i₂) = .ok g' ↔
      ∃ g₁, acceptAll g i₂ = .ok g₁ ∧ g₁.accept f v = .ok g' := by
  induction i₂ generalizing g with
  | nil =>
    rw [acceptAll_cons_eq_ok_iff]
    constructor
    · rintro ⟨g₁, h, ⟨⟩⟩
      exact ⟨g, rfl, h⟩
    · rintro ⟨_, ⟨⟩, h⟩
      exact ⟨g', h, rfl⟩
  | cons i i₂ ih =>
    obtain ⟨f', v'⟩ := i
    rw [acceptAll_cons_eq_ok_iff]
    constructor
    · rintro ⟨g₁, h, hrest⟩
      obtain ⟨g₂, h', hrest⟩ := acceptAll_cons_eq_ok_iff.mp hrest
      obtain ⟨k, hk', hk⟩ := (Given.accept_comm hf).mp ⟨g₁, h, h'⟩
      obtain ⟨l, hl, hlast⟩ := ih.mp (acceptAll_cons_eq_ok_iff.mpr ⟨g₂, hk, hrest⟩)
      exact ⟨l, acceptAll_cons_eq_ok_iff.mpr ⟨k, hk', hl⟩, hlast⟩
    · rintro ⟨l, hl, hlast⟩
      obtain ⟨k, hk', hl⟩ := acceptAll_cons_eq_ok_iff.mp hl
      obtain ⟨g₂, hk, hrest⟩ := acceptAll_cons_eq_ok_iff.mp (ih.mpr ⟨l, hl, hlast⟩)
      obtain ⟨g₁, h, h'⟩ := (Given.accept_comm hf).mpr ⟨k, hk', hk⟩
      exact ⟨g₁, h, acceptAll_cons_eq_ok_iff.mpr ⟨g₂, h', hrest⟩⟩

theorem acceptAll_insert (hf : f ≠ .allowed) :
    acceptAll g (i₁ ++ (f, v) :: i₂) = .ok g' ↔
      ∃ g₁, acceptAll g (i₁ ++ i₂) = .ok g₁ ∧ g₁.accept f v = .ok g' := by
  simp only [acceptAll_append, acceptAll_cons_comm hf]
  constructor
  · rintro ⟨g₁, h₁, g₂, h₂, hlast⟩
    exact ⟨g₂, ⟨g₁, h₁, h₂⟩, hlast⟩
  · rintro ⟨g₂, ⟨g₁, h₁, h₂⟩, hlast⟩
    exact ⟨g₁, h₁, g₂, h₂, hlast⟩

end AcceptAll

/-! ### Content -/

/-- The values of flags that are given before and after the word for an action. -/
inductive Composed : Level → List String → List (Flag × String) →
    Option (Level × List (Flag × String)) → Prop
  | ends {level : Level} {tail : List String} (h : Ends tail) : Composed level tail [] none
  | joined {level : Level} {argument name value : String} {f : Flag} {rest : List String}
      {items : List (Flag × String)} {after : Option (Level × List (Flag × String))}
      (shape : shapeOf argument = .long name (some value)) (flag : level.flag? name = some f)
      (h : Composed level rest items after) :
    Composed level (argument :: rest) ((f, value) :: items) after
  | apart {level : Level} {argument name value : String} {f : Flag} {rest : List String}
      {items : List (Flag × String)} {after : Option (Level × List (Flag × String))}
      (shape : shapeOf argument = .long name none) (flag : level.flag? name = some f)
      (word : shapeOf value = .word) (h : Composed level rest items after) :
    Composed level (argument :: value :: rest) ((f, value) :: items) after
  | action {level : Level} {argument : String} {rest : List String}
      {items : List (Flag × String)} (word : subcommand? argument = some level)
      (h : Composed level rest items none) :
    Composed .program (argument :: rest) [] (some (level, items))

theorem Level.name_of_flag? {name : String} (h : level.flag? name = some f) : f.name = name := by
  have hname := List.find?_some h
  exact of_decide_eq_true hname

section Composed

variable {front back arguments : List String} {items i₁ i₂ before : List (Flag × String)}
  {after : Option (Level × List (Flag × String))}

theorem Spells.composed (h : Spells level front i₁) (hback : Composed level back i₂ after) :
    Composed level (front ++ back) (i₁ ++ i₂) after := by
  induction h with
  | nil => exact hback
  | joined shape flag _ ih => exact ih.joined shape flag
  | apart shape flag word _ ih => exact ih.apart shape flag word

/-- Nothing is torn apart after an argument: before a word it is no flag that awaits its value, and
at the end it is not what ends the flags. -/
def Free (argument : String) : List String → Prop
  | [] => shapeOf argument ≠ .terminator
  | next :: _ => shapeOf next = .word → ∀ f : Flag, shapeOf argument ≠ .long f.name none

/-- A flag with its value may stand between arguments. -/
def Apt (front back : List String) : Prop :=
  ∀ init argument, front = init ++ [argument] → Free argument back

theorem Apt.of_cons {argument : String} (h : Apt (argument :: front) back) : Apt front back := by
  rintro init last rfl
  exact h (argument :: init) last rfl

theorem apt_nil (back : List String) : Apt [] back := by
  intro init argument h
  exact absurd h.symm (List.append_ne_nil_of_right_ne_nil _ (List.cons_ne_nil _ _))

theorem apt_of_word {argument : String} (front : List String) (h : shapeOf argument = .word)
    (back : List String) : Apt (front ++ [argument]) back := by
  intro init last heq
  obtain ⟨-, ⟨⟩⟩ := List.append_inj' heq rfl
  cases back with
  | nil =>
    rw [Free, h]
    nofun
  | cons next back =>
    rw [Free, h]
    nofun

/-- Arguments that go on after the word for an action. -/
inductive Opens : List String → List (Flag × String) → Level → List (Flag × String) → Prop
  | intro {flags rest : List String} {word : String} {level : Level}
      {before items : List (Flag × String)} (hflags : Spells .program flags before)
      (hword : subcommand? word = some level) (hrest : Spells level rest items) :
    Opens (flags ++ word :: rest) before level items

theorem Opens.composed (h : Opens front before level i₁) (hback : Composed level back i₂ none) :
    Composed .program (front ++ back) before (some (level, i₁ ++ i₂)) := by
  obtain ⟨hflags, hword, hrest⟩ := h
  rw [List.append_assoc, ← List.append_nil before]
  exact hflags.composed (.action hword (hrest.composed hback))

/-- Arguments that part into what is given on either side of a place, which is before the word for
an action or after it. -/
inductive Parts (front back : List String) : Level → List (Flag × String) →
    Option (Level × List (Flag × String)) → Prop
  | before {level : Level} {i₁ i₂ : List (Flag × String)}
      {after : Option (Level × List (Flag × String))} (hfront : Spells level front i₁)
      (hback : Composed level back i₂ after) : Parts front back level (i₁ ++ i₂) after
  | after {level : Level} {before i₁ i₂ : List (Flag × String)}
      (hfront : Opens front before level i₁) (hback : Composed level back i₂ none) :
    Parts front back .program before (some (level, i₁ ++ i₂))

theorem Parts.joined {argument name : String} (h : Parts front back level items after)
    (shape : shapeOf argument = .long name (some v)) (flag : level.flag? name = some f) :
    Parts (argument :: front) back level ((f, v) :: items) after := by
  cases h with
  | before hfront hback => exact .before (hfront.joined shape flag) hback
  | after hfront hback =>
    obtain ⟨hflags, hword, hrest⟩ := hfront
    exact .after (.intro (hflags.joined shape flag) hword hrest) hback

theorem Parts.apart {argument name : String} (h : Parts front back level items after)
    (shape : shapeOf argument = .long name none) (flag : level.flag? name = some f)
    (word : shapeOf v = .word) :
    Parts (argument :: v :: front) back level ((f, v) :: items) after := by
  cases h with
  | before hfront hback => exact .before (hfront.apart shape flag word) hback
  | after hfront hback =>
    obtain ⟨hflags, hword, hrest⟩ := hfront
    exact .after (.intro (hflags.apart shape flag word) hword hrest) hback

/-- Arguments part wherever a flag may stand. -/
theorem Composed.parts (h : Composed level (front ++ back) items after) (hapt : Apt front back) :
    Parts front back level items after := by
  generalize harguments : front ++ back = arguments at h
  -- the arguments are gone through as they are composed; a place within a flag and its value is
  -- not apt, nor is one after the end of the flags
  induction h generalizing front with
  | ends hends =>
    rcases hends with rfl | ⟨argument, rfl, hshape⟩
    · obtain ⟨rfl, rfl⟩ := List.append_eq_nil_iff.mp harguments
      exact .before .nil (.ends (.inl rfl))
    · rcases List.append_eq_singleton_iff.mp harguments with ⟨rfl, rfl⟩ | ⟨rfl, rfl⟩
      · exact .before .nil (.ends (.inr ⟨argument, rfl, hshape⟩))
      · exact absurd hshape (hapt [] argument rfl)
  | joined shape flag h ih =>
    rcases List.append_eq_cons_iff.mp harguments with ⟨rfl, rfl⟩ | ⟨front, rfl, hrest⟩
    · exact .before .nil (h.joined shape flag)
    · exact (ih hapt.of_cons hrest.symm).joined shape flag
  | @apart _ argument _ _ f _ _ _ shape flag word h ih =>
    rcases List.append_eq_cons_iff.mp harguments with ⟨rfl, rfl⟩ | ⟨front, rfl, hrest⟩
    · exact .before .nil (h.apart shape flag word)
    · rcases List.append_eq_cons_iff.mp hrest.symm with ⟨rfl, rfl⟩ | ⟨front, rfl, rfl⟩
      · obtain rfl := Level.name_of_flag? flag
        exact absurd shape (hapt [] argument rfl word f)
      · exact (ih hapt.of_cons.of_cons rfl).apart shape flag word
  | action hword h ih =>
    rcases List.append_eq_cons_iff.mp harguments with ⟨rfl, rfl⟩ | ⟨front, rfl, hrest⟩
    · exact .before .nil (h.action hword)
    · cases ih hapt.of_cons hrest.symm with
      | before hfront hback => exact .after (.intro .nil hword hfront) hback

end Composed

/-! ### A flag and its value in one argument -/

/-- A flag with its value. -/
def Flag.given (f : Flag) (value : String) : String := "--" ++ f.name ++ "=" ++ value

theorem shapeOf_given (f : Flag) (v : String) : shapeOf (f.given v) = .long f.name (some v) := by
  have hname : f.name.toList.all (· != '=') = true := by cases f <;> rfl
  have hgiven : (f.given v).toList = '-' :: '-' :: (f.name.toList ++ '=' :: v.toList) := by
    simp only [Flag.given, String.toList_append, List.append_assoc]
    rfl
  have htake : (f.name.toList ++ '=' :: v.toList).takeWhile (· != '=') = f.name.toList := by
    rw [List.takeWhile_append_of_pos (List.all_eq_true.mp hname),
      List.takeWhile_cons_of_neg (by decide), List.append_nil]
  obtain ⟨c, cs, hcs⟩ : ∃ c cs, f.name.toList ++ '=' :: v.toList = c :: cs :=
    List.exists_cons_of_ne_nil (List.append_ne_nil_of_right_ne_nil _ (List.cons_ne_nil _ _))
  rw [shapeOf, hgiven, hcs]
  split
  · rename_i h
    cases h
  · rename_i h
    cases h
    dsimp only
    rw [← hcs, htake, List.drop_left, String.ofList_toList]
    exact congrArg (fun value => Shape.long f.name (some value)) String.ofList_toList
  · rename_i h
    cases h
  · rename_i hlong _ h
    cases h
    exact absurd rfl (hlong _)
  · rename_i hlong _ _
    exact absurd rfl (hlong _)

theorem Flag.name_injective : Function.Injective Flag.name := by
  intro f f' h
  cases f <;> cases f' <;> first | rfl | exact absurd h (by decide)

theorem apt_given (front back : List String) (f : Flag) (v : String) :
    Apt front (f.given v :: back) := by
  intro init argument _ hword
  rw [shapeOf_given] at hword
  cases hword

theorem shapeOf_of_subcommand? {word : String} (h : subcommand? word = some level) :
    shapeOf word = .word := by
  rw [subcommand?] at h
  split at h
  · subst word
    rfl
  · split at h
    · subst word
      rfl
    · cases h

/-- A flag with its value is where flags are. -/
theorem Composed.of_given {back : List String} {items : List (Flag × String)}
    {after : Option (Level × List (Flag × String))}
    (h : Composed level (f.given v :: back) items after) :
    ∃ items', items = (f, v) :: items' ∧ level.flag? f.name = some f ∧
      Composed level back items' after := by
  have hshape := shapeOf_given f v
  cases h with
  | ends hends =>
    rcases hends with hnil | ⟨argument, heq, hterminator⟩
    · cases hnil
    · cases heq
      rw [hshape] at hterminator
      cases hterminator
  | joined shape flag h =>
    rw [hshape] at shape
    cases shape
    obtain rfl := Flag.name_injective (Level.name_of_flag? flag)
    exact ⟨_, rfl, flag, h⟩
  | apart shape _ _ _ =>
    rw [hshape] at shape
    cases shape
  | action hword _ =>
    rw [shapeOf_of_subcommand? hword] at hshape
    cases hshape

/-! ### Meaning -/

/-- What content means. -/
inductive Means (named : Option String) (before : List (Flag × String)) :
    Option (Level × List (Flag × String)) → Arguments → Prop
  | plain {g : Given} {path : Option String} (hg : acceptAll {} before = .ok g)
      (hpath : configFileOf g.configFile named = .ok path) :
    Means named before none ⟨path, g.overrides, none⟩
  | action {level : Level} {items : List (Flag × String)} {earlier later : Given}
      {path : Option String} {action : Action} (hearlier : acceptAll {} before = .ok earlier)
      (hlater : acceptAll {} items = .ok later) (haction : actionOf level later = .ok action)
      (hpath : configFileOf earlier.configFile named = .ok path) :
    Means named before (some (level, items))
      ⟨path, later.overrides.or earlier.overrides, some action⟩

section Means

variable {arguments : List String} {items : List (Flag × String)} {named : Option String}
  {shown : String}

theorem Composed.spells {after : Option (Level × List (Flag × String))}
    (h : Composed level arguments items after) :
    ∃ flags tail, arguments = flags ++ tail ∧ Spells level flags items ∧
      (Ends tail ∧ after = none ∨ level = .program ∧ ∃ word rest l items',
        tail = word :: rest ∧ subcommand? word = some l ∧ Composed l rest items' none ∧
          after = some (l, items')) := by
  induction h with
  | ends h => exact ⟨[], _, rfl, .nil, .inl ⟨h, rfl⟩⟩
  | joined shape flag _ ih =>
    obtain ⟨flags, tail, rfl, hflags, htail⟩ := ih
    exact ⟨_, tail, rfl, hflags.joined shape flag, htail⟩
  | apart shape flag word _ ih =>
    obtain ⟨flags, tail, rfl, hflags, htail⟩ := ih
    exact ⟨_, tail, rfl, hflags.apart shape flag word, htail⟩
  | action hword h _ => exact ⟨[], _, rfl, .nil, .inr ⟨rfl, _, _, _, _, rfl, hword, h, rfl⟩⟩

theorem composed_of_ends {flags tail : List String} (hflags : Spells level flags items)
    (htail : Ends tail) : Composed level (flags ++ tail) items none := by
  rw [← List.append_nil items]
  exact hflags.composed (.ends htail)

theorem readSubcommand_eq_ok_iff :
    readSubcommand level g .nothing arguments = .ok g' ↔
      ∃ items, Composed level arguments items none ∧ acceptAll g items = .ok g' := by
  constructor
  · intro h
    obtain ⟨flags, tail, items, rfl, hflags, htail, hg⟩ := spells_of_readSubcommand h
    exact ⟨items, composed_of_ends hflags htail, hg⟩
  · rintro ⟨items, hcomposed, hg⟩
    obtain ⟨flags, tail, rfl, hflags, ⟨htail, -⟩ | ⟨-, _, _, _, _, -, -, -, ⟨⟩⟩⟩ := hcomposed.spells
    rw [(reads_readSubcommand level).append hflags hg]
    exact readSubcommand_of_ends htail

theorem readProgram_of_ends (h : Ends arguments) :
    readProgram shown g .nothing arguments = .ok (g, none) := by
  rcases h with rfl | ⟨argument, rfl, hshape⟩
  · rfl
  · simp only [readProgram, hshape]
    rfl

theorem action_of_readAction {p : Pending} {r : Given × Option Action}
    (h : readAction level g p arguments = .ok r) : ∃ action, r.2 = some action := by
  rw [readAction] at h
  split at h
  · cases h
  · split at h
    · cases h
    · split at h
      · cases h
      · cases h
        exact ⟨_, rfl⟩

theorem ends_of_readProgram (htail : Tail arguments)
    (h : readProgram shown g .nothing arguments = .ok (g', none)) : Ends arguments ∧ g' = g := by
  cases arguments with
  | nil =>
    cases h
    exact ⟨.inl rfl, rfl⟩
  | cons argument rest =>
    rcases htail argument rest rfl with hshape | hshape
    · simp only [readProgram, hshape] at h
      cases rest with
      | nil =>
        cases h
        exact ⟨.inr ⟨argument, rfl, hshape⟩, rfl⟩
      | cons word rest => cases h
    · simp only [readProgram, hshape] at h
      split at h
      · cases h
      · split at h
        · obtain ⟨action, haction⟩ := action_of_readAction h
          cases haction
        · cases h

/-- Arguments are read as what their content means. -/
theorem parse_eq_ok_iff {a : Arguments} :
    parse named arguments = .ok a ↔
      ∃ before after, Composed .program arguments before after ∧ Means named before after a := by
  constructor
  · intro h
    rw [parse] at h
    split at h
    · cases h
    · rename_i g action hread
      split at h
      · cases h
      · rename_i path hpath
        cases h
        cases action with
        | none =>
          obtain ⟨flags, tail, before, g₁, rfl, hflags, hg, htail, hrest⟩ :=
            (reads_readProgram _).reaches hread
          obtain ⟨hends, rfl⟩ := ends_of_readProgram htail hrest
          exact ⟨before, none, composed_of_ends hflags hends, .plain hg hpath⟩
        | some action =>
          obtain ⟨flags, word, rest, before, level, earlier, rfl, hflags, hearlier, hword, hrest⟩ :=
            spells_of_readProgram hread
          obtain ⟨later, hlater, haction, rfl⟩ := readAction_eq_ok_iff.mp hrest
          obtain ⟨items, hcomposed, hlater⟩ := readSubcommand_eq_ok_iff.mp hlater
          refine ⟨before, some (level, items), ?_, .action hearlier hlater haction hpath⟩
          rw [← List.append_nil before]
          exact hflags.composed (.action hword hcomposed)
  · rintro ⟨before, after, hcomposed, hmeans⟩
    obtain ⟨flags, tail, rfl, hflags, htail⟩ := hcomposed.spells
    cases hmeans with
    | plain hg hpath =>
      obtain ⟨hends, -⟩ | ⟨-, _, _, _, _, -, -, -, ⟨⟩⟩ := htail
      rw [parse, (reads_readProgram _).append hflags hg, readProgram_of_ends hends]
      dsimp only
      rw [hpath]
    | @action level items earlier later path action hearlier hlater haction hpath =>
      obtain ⟨-, ⟨⟩⟩ | ⟨-, word, rest, _, _, rfl, hword, hcomposed, ⟨⟩⟩ := htail
      have hread : readAction level earlier .nothing rest =
          .ok ({ earlier with overrides := later.overrides.or earlier.overrides }, some action) :=
        readAction_eq_ok_iff.mpr
          ⟨later, readSubcommand_eq_ok_iff.mpr ⟨items, hcomposed, hlater⟩, haction, rfl⟩
      rw [parse, (reads_readProgram _).append hflags hearlier,
        readProgram_word (shapeOf_of_subcommand? hword) hword, hread]
      dsimp only
      rw [hpath]

end Means

end Stagehand.CommandLine
