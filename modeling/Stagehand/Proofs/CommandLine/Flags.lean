import Stagehand.CommandLine.Parser

/-!
# Flags in a row
Arguments that are made of flags and their values mean as much as the values, which are taken one
after the other. A value is taken in the same way whatever was given for other flags before, and
whether it stands in the argument of its flag or after it.
-/

namespace Stagehand.CommandLine

/-! ### One value -/

/-- The flag that an error is about, if it is about the values of one. -/
def UsageError.flag? : UsageError → Option Flag
  | missingValue f => some f
  | invalidValue f _ _ => some f
  | repeatedFlag f => some f
  | _ => none

namespace Given

/-- What has been given for the other flags. -/
def clear (g : Given) : Flag → Given
  | .configFile => { g with configFile := none }
  | .logLevel => { g with overrides := { g.overrides with logLevel := none } }
  | .logJson => { g with overrides := { g.overrides with logJson := none } }
  | .cacheUrl => { g with overrides := { g.overrides with cacheUrl := none } }
  | .cacheToken => { g with overrides := { g.overrides with cacheToken := none } }
  | .timeout => { g with overrides := { g.overrides with timeoutMs := none } }
  | .role => { g with role := none }
  | .tenant => { g with tenant := none }
  | .user => { g with user := none }
  | .minimum => { g with minimum := none }
  | .allowed => { g with allowed := [] }

theorem map_map_eq {α : Type} {x : Except UsageError α} {set set' : α → Given} {c : Given → Given}
    (h : ∀ v, set' v = c (set v)) : x.map set' = (x.map set).map c := by
  cases x with
  | error e => rfl
  | ok v => exact congrArg Except.ok (h v)

variable {g g' : Given} {f f' : Flag} {v : String}

/-- A value does not meet the values of other flags. -/
theorem accept_clear (h : f ≠ f') :
    (g.clear f').accept f v = (g.accept f v).map fun g => g.clear f' := by
  cases f <;> cases f' <;> first | exact absurd rfl h | exact map_map_eq fun _ => rfl

theorem eq_of_map {α β : Type} {x : Except UsageError α} {set : α → Given} (part : Given → β)
    (h : x.map set = .ok g') (hset : ∀ v, part (set v) = part g) : part g' = part g := by
  cases x with
  | error e => cases h
  | ok v =>
    cases h
    exact hset v

/-- A value changes nothing about other flags. -/
theorem clear_of_accept (h : g.accept f v = .ok g') : g'.clear f = g.clear f := by
  cases f <;> exact eq_of_map (fun g => g.clear _) h fun _ => rfl

end Given

/-! ### Values in a row -/

/-- Takes the values of flags, one after the other. -/
def acceptAll (g : Given) (items : List (Flag × String)) : Except UsageError Given :=
  items.foldlM (fun g i => g.accept i.1 i.2) g

section AcceptAll

variable {g g' : Given} {f : Flag} {v : String} {items : List (Flag × String)}

theorem acceptAll_cons_eq_ok_iff :
    acceptAll g ((f, v) :: items) = .ok g' ↔
      ∃ g₁, g.accept f v = .ok g₁ ∧ acceptAll g₁ items = .ok g' := by
  rw [acceptAll, List.foldlM_cons]
  cases h : g.accept f v with
  | error e =>
    constructor
    · intro h'
      cases h'
    · rintro ⟨g₁, h', -⟩
      cases h'
  | ok g₁ =>
    constructor
    · intro h'
      exact ⟨g₁, rfl, h'⟩
    · rintro ⟨g₂, h₂, h'⟩
      cases h₂
      exact h'

end AcceptAll

/-- Arguments that are made of flags of a level and their values. -/
inductive Spells (level : Level) : List String → List (Flag × String) → Prop
  | nil : Spells level [] []
  | joined {argument name value : String} {f : Flag} {rest : List String}
      {items : List (Flag × String)} (shape : shapeOf argument = .long name (some value))
      (flag : level.flag? name = some f) (h : Spells level rest items) :
    Spells level (argument :: rest) ((f, value) :: items)
  | apart {argument name value : String} {f : Flag} {rest : List String}
      {items : List (Flag × String)} (shape : shapeOf argument = .long name none)
      (flag : level.flag? name = some f) (word : shapeOf value = .word)
      (h : Spells level rest items) :
    Spells level (argument :: value :: rest) ((f, value) :: items)

/-! ### Readers of flags -/

/-- What may follow flags: nothing more, the end of the flags, or a word. -/
def Tail (arguments : List String) : Prop :=
  ∀ argument rest, arguments = argument :: rest →
    shapeOf argument = .terminator ∨ shapeOf argument = .word

theorem tail_nil : Tail [] := by
  rintro _ _ ⟨⟩

theorem tail_cons {argument : String}
    (h : shapeOf argument = .terminator ∨ shapeOf argument = .word) (rest : List String) :
    Tail (argument :: rest) := by
  rintro _ _ ⟨⟩
  exact h

/-- A reader that takes flags as they are taken at a level, and looks at a pending value as soon as
it comes to anything else, unless that is wrong anyway. -/
structure Reads (level : Level) (help : String) {β : Type}
    (read : Given → Pending → List String → Except Stop β) : Prop where
  long {argument name : String} {value : Option String}
    (shape : shapeOf argument = .long name value) (g : Given) (p : Pending) (rest : List String) :
    read g p (argument :: rest) =
      (takeFlag level help g p (.long name value)).bind fun r => read r.1 r.2 rest
  short {argument : String} {letters : List Char} (shape : shapeOf argument = .short letters)
    (g : Given) (p : Pending) (rest : List String) :
    read g p (argument :: rest) =
      (takeFlag level help g p (.short letters)).bind fun r => read r.1 r.2 rest
  value {v : String} (word : shapeOf v = .word) (g : Given) (f : Flag) (rest : List String) :
    read g (.awaiting f) (v :: rest) = read g (.holding f v) rest
  missing {rest : List String} (h : ∀ v more, rest = v :: more → shapeOf v = .terminator)
    (g : Given) (f : Flag) : ∃ e, read g (.awaiting f) rest = .error (.fault e)
  settled {rest : List String} (h : Tail rest) {g g₁ : Given} {f : Flag} {v : String}
    (haccept : g.accept f v = .ok g₁) : read g (.holding f v) rest = read g₁ .nothing rest
  unsettled {rest : List String} (h : Tail rest) {g : Given} {f : Flag} {v : String}
    {e : UsageError} (haccept : g.accept f v = .error e) :
    read g (.holding f v) rest = .error (.fault e) ∨
      ∃ s, read g (.holding f v) rest = .error s ∧ read g .nothing rest = .error s

section Settle

variable {level : Level} {help : String} {g g₁ : Given} {p : Pending} {f : Flag} {v : String}

theorem shapeOf_ne_short_nil (argument : String) : shapeOf argument ≠ .short [] := by
  rw [shapeOf]
  split
  · nofun
  · dsimp only
    split <;> nofun
  · nofun
  · rename_i cs _ hne _
    intro h
    cases h
    simp_all
  · nofun

theorem Pending.settle_nothing (g : Given) : nothing.settle g = .ok g := rfl

theorem Pending.settle_holding (h : g.accept f v = .ok g₁) : (holding f v).settle g = .ok g₁ := by
  simp only [settle, h]

theorem Pending.settle_holding_error {e : UsageError} (h : g.accept f v = .error e) :
    (holding f v).settle g = .error (.fault e) := by
  simp only [settle, h]

/-- A flag looks at the value that is pending before it, or it does not matter. -/
theorem takeFlag_long_of_settle (h : p.settle g = .ok g₁) (name : String) (value : Option String) :
    takeFlag level help g p (.long name value) =
      takeFlag level help g₁ .nothing (.long name value) := by
  simp only [takeFlag, Pending.stop, h, Pending.settle_nothing]

theorem takeFlag_short_of_settle (h : p.settle g = .ok g₁) (c : Char) (letters : List Char) :
    takeFlag level help g p (.short (c :: letters)) =
      takeFlag level help g₁ .nothing (.short (c :: letters)) := by
  simp only [takeFlag, Pending.stop, h, Pending.settle_nothing]

theorem takeFlag_some {name : String} (flag : level.flag? name = some f)
    (h : g.accept f v = .ok g₁) :
    takeFlag level help g .nothing (.long name (some v)) = .ok (g₁, .nothing) := by
  simp only [takeFlag, flag, Pending.settle_nothing, h]

theorem takeFlag_none {name : String} (flag : level.flag? name = some f) :
    takeFlag level help g .nothing (.long name none) = .ok (g, .awaiting f) := by
  simp only [takeFlag, flag, Pending.settle_nothing]

theorem Pending.stop_ne_ok {stop : Stop} {r : Given × Pending} : p.stop g stop ≠ .ok r := by
  rw [Pending.stop]
  split <;> nofun

theorem takeFlag_short_ne_ok {letters : List Char} {r : Given × Pending} {c : Char} :
    takeFlag level help g p (.short (c :: letters)) ≠ .ok r := by
  simp only [takeFlag]
  split
  · exact Pending.stop_ne_ok
  · split
    · exact Pending.stop_ne_ok
    · nofun

theorem takeFlag_long_eq_ok {name : String} {value : Option String} {r : Given × Pending}
    (h : takeFlag level help g p (.long name value) = .ok r) :
    ∃ f g₁, level.flag? name = some f ∧ p.settle g = .ok g₁ ∧
      ((value = none ∧ r = (g₁, .awaiting f)) ∨
        ∃ v g₂, value = some v ∧ g₁.accept f v = .ok g₂ ∧ r = (g₂, .nothing)) := by
  simp only [takeFlag] at h
  split at h
  · rename_i f hflag
    cases hsettle : p.settle g with
    | error s =>
      rw [hsettle] at h
      cases h
    | ok g₁ =>
      refine ⟨f, g₁, hflag, rfl, ?_⟩
      rw [hsettle] at h
      cases value with
      | none =>
        cases h
        exact .inl ⟨rfl, rfl⟩
      | some v =>
        dsimp only at h
        split at h
        · rename_i g₂ haccept
          cases h
          exact .inr ⟨v, g₂, rfl, haccept, rfl⟩
        · cases h
  · split at h
    · split at h
      · cases h
      · exact absurd h Pending.stop_ne_ok
    · cases h

end Settle

namespace Reads

variable {level : Level} {help : String} {β : Type}
  {read : Given → Pending → List String → Except Stop β} {g g₁ : Given} {p : Pending}
  {arguments : List String} {items : List (Flag × String)} {r : β}

theorem missing_nil (h : Reads level help read) (g : Given) (f : Flag) :
    ∃ e, read g (.awaiting f) [] = .error (.fault e) := by
  apply h.missing
  rintro _ _ ⟨⟩

theorem missing_terminator (h : Reads level help read) {argument : String}
    (hshape : shapeOf argument = .terminator) (g : Given) (f : Flag) (rest : List String) :
    ∃ e, read g (.awaiting f) (argument :: rest) = .error (.fault e) := by
  apply h.missing
  rintro _ _ ⟨⟩
  exact hshape

/-- A value that is right may be looked at when it comes. -/
theorem settle (h : Reads level help read) {f : Flag} {v : String} (haccept : g.accept f v = .ok g₁)
    (rest : List String) : read g (.holding f v) rest = read g₁ .nothing rest := by
  have hsettle := Pending.settle_holding haccept
  cases rest with
  | nil => exact h.settled tail_nil haccept
  | cons argument rest =>
    cases hshape : shapeOf argument with
    | terminator => exact h.settled (tail_cons (.inl hshape) rest) haccept
    | word => exact h.settled (tail_cons (.inr hshape) rest) haccept
    | long name value => rw [h.long hshape, h.long hshape, takeFlag_long_of_settle hsettle]
    | short letters =>
      cases letters with
      | nil => exact absurd hshape (shapeOf_ne_short_nil argument)
      | cons c letters => rw [h.short hshape, h.short hshape, takeFlag_short_of_settle hsettle]

/-- Flags are taken in their order, whatever comes after them. -/
theorem append (h : Reads level help read) (hspells : Spells level arguments items)
    (hg : acceptAll g items = .ok g₁) (rest : List String) :
    read g .nothing (arguments ++ rest) = read g₁ .nothing rest := by
  induction hspells generalizing g with
  | nil =>
    cases hg
    rfl
  | joined shape flag _ ih =>
    obtain ⟨g₂, haccept, hg⟩ := acceptAll_cons_eq_ok_iff.mp hg
    rw [List.cons_append, h.long shape, takeFlag_some flag haccept]
    exact ih hg
  | apart shape flag word _ ih =>
    obtain ⟨g₂, haccept, hg⟩ := acceptAll_cons_eq_ok_iff.mp hg
    rw [List.cons_append, List.cons_append, h.long shape, takeFlag_none flag]
    exact ((h.value word g _ _).trans (h.settle haccept _)).trans (ih hg)

/-- What is read from here on: flags, and then what remains to be read. -/
def Reaches (level : Level) (read : Given → Pending → List String → Except Stop β) (g : Given)
    (arguments : List String) (r : β) : Prop :=
  ∃ flags rest items g₁, arguments = flags ++ rest ∧ Spells level flags items ∧
    acceptAll g items = .ok g₁ ∧ Tail rest ∧ read g₁ .nothing rest = .ok r

theorem Reaches.joined {argument name v : String} {f : Flag}
    (shape : shapeOf argument = .long name (some v)) (flag : level.flag? name = some f)
    (haccept : g.accept f v = .ok g₁) (h : Reaches level read g₁ arguments r) :
    Reaches level read g (argument :: arguments) r := by
  obtain ⟨flags, rest, items, g₂, rfl, hspells, hg, hrest⟩ := h
  exact ⟨_, rest, _, g₂, rfl, hspells.joined shape flag,
    acceptAll_cons_eq_ok_iff.mpr ⟨g₁, haccept, hg⟩, hrest⟩

theorem Reaches.apart {argument name v : String} {f : Flag}
    (shape : shapeOf argument = .long name none) (flag : level.flag? name = some f)
    (word : shapeOf v = .word) (haccept : g.accept f v = .ok g₁)
    (h : Reaches level read g₁ arguments r) :
    Reaches level read g (argument :: v :: arguments) r := by
  obtain ⟨flags, rest, items, g₂, rfl, hspells, hg, hrest⟩ := h
  exact ⟨_, rest, _, g₂, rfl, hspells.apart shape flag word,
    acceptAll_cons_eq_ok_iff.mpr ⟨g₁, haccept, hg⟩, hrest⟩

theorem reaches_tail (hrest : Tail arguments) (h : read g .nothing arguments = .ok r) :
    Reaches level read g arguments r :=
  ⟨[], arguments, [], g, rfl, .nil, rfl, hrest, h⟩

/-- How arguments are read with a flag pending: an awaited value comes first. -/
inductive Pends (level : Level) (read : Given → Pending → List String → Except Stop β) (g : Given)
    (r : β) : Pending → List String → Prop
  | nothing {arguments : List String} (h : Reaches level read g arguments r) :
    Pends level read g r .nothing arguments
  | holding {f : Flag} {v : String} {arguments : List String} {g₁ : Given}
    (haccept : g.accept f v = .ok g₁) (h : Reaches level read g₁ arguments r) :
    Pends level read g r (.holding f v) arguments
  | awaiting {f : Flag} {v : String} {arguments : List String} {g₁ : Given}
    (word : shapeOf v = .word) (haccept : g.accept f v = .ok g₁)
    (h : Reaches level read g₁ arguments r) :
    Pends level read g r (.awaiting f) (v :: arguments)

theorem pends_tail (h : Reads level help read) (hrest : Tail arguments)
    (hp : ∀ f, p ≠ .awaiting f) (hr : read g p arguments = .ok r) :
    Pends level read g r p arguments := by
  cases p with
  | nothing => exact .nothing (reaches_tail hrest hr)
  | awaiting f => exact absurd rfl (hp f)
  | holding f v =>
    cases haccept : g.accept f v with
    | ok g₁ =>
      rw [h.settled hrest haccept] at hr
      exact .holding haccept (reaches_tail hrest hr)
    | error e =>
      rcases h.unsettled hrest haccept with hread | ⟨s, hread, -⟩
      · rw [hread] at hr
        cases hr
      · rw [hread] at hr
        cases hr

theorem Pends.of_settle (hsettle : p.settle g = .ok g₁) (h : Reaches level read g₁ arguments r) :
    Pends level read g r p arguments := by
  cases p with
  | nothing =>
    cases hsettle
    exact .nothing h
  | awaiting f => cases hsettle
  | holding f v =>
    cases haccept : g.accept f v with
    | ok g₂ =>
      rw [Pending.settle_holding haccept] at hsettle
      cases hsettle
      exact .holding haccept h
    | error e =>
      rw [Pending.settle_holding_error haccept] at hsettle
      cases hsettle

/-- Whatever is read without a fault begins with flags, as many as there are. -/
theorem pends (h : Reads level help read) (hr : read g p arguments = .ok r) :
    Pends level read g r p arguments := by
  induction arguments generalizing g p with
  | nil =>
    refine h.pends_tail tail_nil ?_ hr
    rintro f rfl
    obtain ⟨e, hmissing⟩ := h.missing_nil g f
    rw [hmissing] at hr
    cases hr
  | cons argument rest ih =>
    cases hshape : shapeOf argument with
    | terminator =>
      refine h.pends_tail (tail_cons (.inl hshape) rest) ?_ hr
      rintro f rfl
      obtain ⟨e, hmissing⟩ := h.missing_terminator hshape g f rest
      rw [hmissing] at hr
      cases hr
    | word =>
      cases p with
      | awaiting f =>
        rw [h.value hshape] at hr
        cases ih hr with
        | holding haccept hrest => exact .awaiting hshape haccept hrest
      | nothing => exact h.pends_tail (tail_cons (.inr hshape) rest) nofun hr
      | holding f v => exact h.pends_tail (tail_cons (.inr hshape) rest) nofun hr
    | short letters =>
      cases letters with
      | nil => exact absurd hshape (shapeOf_ne_short_nil argument)
      | cons c letters =>
        rw [h.short hshape] at hr
        cases htake : takeFlag level help g p (.short (c :: letters)) with
        | error s =>
          rw [htake] at hr
          cases hr
        | ok _ => exact absurd htake takeFlag_short_ne_ok
    | long name value =>
      rw [h.long hshape] at hr
      cases htake : takeFlag level help g p (.long name value) with
      | error s =>
        rw [htake] at hr
        cases hr
      | ok taken =>
        rw [htake] at hr
        obtain ⟨f, g₁, hflag, hsettle, ⟨rfl, rfl⟩ | ⟨v, g₂, rfl, haccept, rfl⟩⟩ :=
          takeFlag_long_eq_ok htake
        · cases ih hr with
          | awaiting word haccept hrest =>
            exact .of_settle hsettle (hrest.apart hshape hflag word haccept)
        · cases ih hr with
          | nothing hrest => exact .of_settle hsettle (hrest.joined hshape hflag haccept)

/-- What is read from the beginning begins with flags. -/
theorem reaches (h : Reads level help read) (hr : read g .nothing arguments = .ok r) :
    Reaches level read g arguments r := by
  cases h.pends hr with
  | nothing hreaches => exact hreaches

end Reads

/-! ### Before and after a subcommand -/

section Readers

variable {level : Level} {g g₁ g' : Given} {p : Pending} {f : Flag} {v : String} {e : UsageError}
  {arguments : List String} {action : Action}

theorem finish_holding_error (haccept : g.accept f v = .error e) (level : Level)
    (rest : List String) :
    finish level g (.holding f v) rest = .error (.fault e) ∨
      ∃ s, finish level g (.holding f v) rest = .error s ∧
        finish level g .nothing rest = .error s := by
  cases rest with
  | nil => exact .inl (Pending.settle_holding_error haccept)
  | cons word rest => exact .inr ⟨_, rfl, rfl⟩

theorem reads_readSubcommand (level : Level) :
    Reads level (level.help "") (readSubcommand level) where
  long shape g p rest := by
    simp only [readSubcommand, shape]
    cases takeFlag level (level.help "") g p _ <;> rfl
  short shape g p rest := by
    simp only [readSubcommand, shape]
    cases takeFlag level (level.help "") g p _ <;> rfl
  value word g f rest := by simp only [readSubcommand, word]
  missing {rest} h g f := by
    cases rest with
    | nil => exact ⟨_, rfl⟩
    | cons argument rest =>
      simp only [readSubcommand, h argument rest rfl]
      cases rest <;> exact ⟨_, rfl⟩
  settled {rest} h g g₁ f v haccept := by
    cases rest with
    | nil => exact Pending.settle_holding haccept
    | cons argument rest =>
      rcases h argument rest rfl with hshape | hshape
      · simp only [readSubcommand, hshape]
        cases rest with
        | nil => exact Pending.settle_holding haccept
        | cons word rest => rfl
      · simp only [readSubcommand, hshape]
  unsettled {rest} h g f v e haccept := by
    cases rest with
    | nil => exact .inl (Pending.settle_holding_error haccept)
    | cons argument rest =>
      rcases h argument rest rfl with hshape | hshape
      · simp only [readSubcommand, hshape]
        exact finish_holding_error haccept level rest
      · simp only [readSubcommand, hshape]
        exact .inr ⟨_, rfl, rfl⟩

theorem readAction_of_settle (h : p.settle g = .ok g₁) (rest : List String) :
    readAction level g p rest = readAction level g₁ .nothing rest := by
  simp only [readAction, h, Pending.settle_nothing]

theorem readAction_holding_error (haccept : g.accept f v = .error e) (rest : List String) :
    readAction level g (.holding f v) rest = .error (.fault e) ∨
      ∃ s, readAction level g (.holding f v) rest = .error s ∧
        readAction level g .nothing rest = .error s := by
  simp only [readAction, Pending.settle_holding_error haccept]
  split
  · exact .inr ⟨_, rfl, rfl⟩
  · split
    · exact .inr ⟨_, rfl, rfl⟩
    · exact .inl rfl

theorem reads_readProgram (shown : String) :
    Reads .program (programHelp shown) (readProgram shown) where
  long shape g p rest := by
    simp only [readProgram, shape]
    cases takeFlag .program (programHelp shown) g p _ <;> rfl
  short shape g p rest := by
    simp only [readProgram, shape]
    cases takeFlag .program (programHelp shown) g p _ <;> rfl
  value word g f rest := by simp only [readProgram, word]
  missing {rest} h g f := by
    cases rest with
    | nil => exact ⟨_, rfl⟩
    | cons argument rest =>
      simp only [readProgram, h argument rest rfl]
      cases rest <;> exact ⟨_, rfl⟩
  settled {rest} h g g₁ f v haccept := by
    have hsettle := Pending.settle_holding haccept
    cases rest with
    | nil => simp only [readProgram, hsettle, Pending.settle_nothing]
    | cons argument rest =>
      rcases h argument rest rfl with hshape | hshape
      · simp only [readProgram, hshape]
        cases rest with
        | nil => simp only [finish, hsettle, Pending.settle_nothing]
        | cons word rest => rfl
      · simp only [readProgram, hshape, readAction_of_settle hsettle]
  unsettled {rest} h g f v e haccept := by
    have hsettle := Pending.settle_holding_error haccept
    cases rest with
    | nil =>
      simp only [readProgram, hsettle]
      exact .inl rfl
    | cons argument rest =>
      rcases h argument rest rfl with hshape | hshape
      · simp only [readProgram, hshape]
        rcases finish_holding_error haccept .program rest with hfinish | ⟨s, hfinish, hfinish'⟩
        · rw [hfinish]
          exact .inl rfl
        · rw [hfinish, hfinish']
          exact .inr ⟨s, rfl, rfl⟩
      · simp only [readProgram, hshape]
        split
        · exact .inr ⟨_, rfl, rfl⟩
        · split
          · exact readAction_holding_error haccept rest
          · exact .inr ⟨_, rfl, rfl⟩

theorem readAction_eq_ok_iff :
    readAction level g .nothing arguments = .ok (g', some action) ↔
      ∃ later, readSubcommand level {} .nothing arguments = .ok later ∧
        actionOf level later = .ok action ∧
        g' = { g with overrides := later.overrides.or g.overrides } := by
  simp only [readAction, Pending.settle_nothing]
  constructor
  · intro h
    split at h
    · cases h
    · rename_i later hread
      split at h
      · cases h
      · rename_i haction
        cases h
        exact ⟨later, hread, haction, rfl⟩
  · rintro ⟨later, hread, haction, rfl⟩
    rw [hread]
    dsimp only
    rw [haction]

/-- What may come after the last flag: nothing, or the two hyphens that end the flags. -/
def Ends (arguments : List String) : Prop :=
  arguments = [] ∨ ∃ argument, arguments = [argument] ∧ shapeOf argument = .terminator

theorem readSubcommand_of_ends (h : Ends arguments) :
    readSubcommand level g .nothing arguments = .ok g := by
  rcases h with rfl | ⟨argument, rfl, hshape⟩
  · rfl
  · simp only [readSubcommand, hshape, finish, Pending.settle_nothing]

theorem ends_of_readSubcommand (htail : Tail arguments)
    (h : readSubcommand level g .nothing arguments = .ok g') : Ends arguments ∧ g' = g := by
  cases arguments with
  | nil =>
    cases h
    exact ⟨.inl rfl, rfl⟩
  | cons argument rest =>
    rcases htail argument rest rfl with hshape | hshape
    · simp only [readSubcommand, hshape] at h
      cases rest with
      | nil =>
        cases h
        exact ⟨.inr ⟨argument, rfl, hshape⟩, rfl⟩
      | cons word rest => cases h
    · simp only [readSubcommand, hshape] at h
      cases h

/-- The arguments after a subcommand are flags, and the end of them. -/
theorem spells_of_readSubcommand (h : readSubcommand level g .nothing arguments = .ok g') :
    ∃ flags tail items, arguments = flags ++ tail ∧ Spells level flags items ∧ Ends tail ∧
      acceptAll g items = .ok g' := by
  obtain ⟨flags, tail, items, g₁, rfl, hspells, hg, htail, hread⟩ :=
    (reads_readSubcommand level).reaches h
  obtain ⟨hends, rfl⟩ := ends_of_readSubcommand htail hread
  exact ⟨flags, tail, items, rfl, hspells, hends, hg⟩

theorem readProgram_word {word shown : String} (hshape : shapeOf word = .word)
    (hword : subcommand? word = some level) (rest : List String) :
    readProgram shown g .nothing (word :: rest) = readAction level g .nothing rest := by
  have hhelp : word ≠ "help" := by
    rintro rfl
    cases hword
  simp only [readProgram, hshape, if_neg hhelp, hword]

theorem word_of_readProgram {shown : String} (htail : Tail arguments)
    (h : readProgram shown g .nothing arguments = .ok (g', some action)) :
    ∃ word rest level, arguments = word :: rest ∧ subcommand? word = some level ∧
      readAction level g .nothing rest = .ok (g', some action) := by
  cases arguments with
  | nil => cases h
  | cons argument rest =>
    rcases htail argument rest rfl with hshape | hshape
    · simp only [readProgram, hshape] at h
      cases rest <;> cases h
    · simp only [readProgram, hshape] at h
      split at h
      · cases h
      · split at h
        · rename_i level hlevel
          exact ⟨argument, rest, level, rfl, hlevel, h⟩
        · cases h

/-- The arguments of an action are flags, the word for it, and what comes after that. -/
theorem spells_of_readProgram {shown : String}
    (h : readProgram shown g .nothing arguments = .ok (g', some action)) :
    ∃ flags word rest items level g₁, arguments = flags ++ word :: rest ∧
      Spells .program flags items ∧ acceptAll g items = .ok g₁ ∧ subcommand? word = some level ∧
      readAction level g₁ .nothing rest = .ok (g', some action) := by
  obtain ⟨flags, tail, items, g₁, rfl, hspells, hg, htail, hread⟩ :=
    (reads_readProgram shown).reaches h
  obtain ⟨word, rest, level, rfl, hword, haction⟩ := word_of_readProgram htail hread
  exact ⟨flags, word, rest, items, level, g₁, rfl, hspells, hg, hword, haction⟩

end Readers

end Stagehand.CommandLine
