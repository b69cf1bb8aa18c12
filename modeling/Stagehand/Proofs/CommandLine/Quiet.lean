import Stagehand.Proofs.CommandLine.Flags

/-!
# Flags for logging
Arguments that differ only in flags for logging ask for the same, as far as these flags are right.
Such a flag may come and go wherever a flag may stand, before a subcommand or after it.
-/

namespace Stagehand

/-! ### Results side by side -/

/-- Two results that are alike, unless one of them is an error that is excused. -/
inductive Paired {ε α : Type} (excused : ε → Prop) (like : ε → ε → Prop) (same : α → α → Prop) :
    Except ε α → Except ε α → Prop
  | ok {a b : α} (h : same a b) : Paired excused like same (.ok a) (.ok b)
  | error {e e' : ε} (h : like e e') : Paired excused like same (.error e) (.error e')
  | left {e : ε} (h : excused e) (y : Except ε α) : Paired excused like same (.error e) y
  | right {e : ε} (h : excused e) (x : Except ε α) : Paired excused like same x (.error e)

namespace Paired

variable {ε α β : Type} {excused : ε → Prop} {like : ε → ε → Prop} {same : α → α → Prop}
  {same' : β → β → Prop} {x y : Except ε α}

theorem bind {k k' : α → Except ε β} (h : Paired excused like same x y)
    (hk : ∀ {a b}, same a b → Paired excused like same' (k a) (k' b)) :
    Paired excused like same' (x.bind k) (y.bind k') := by
  cases h with
  | ok h => exact hk h
  | error h => exact .error h
  | left h => exact .left h _
  | right h => exact .right h _

theorem mapError {ε' : Type} {excused' : ε' → Prop} {like' : ε' → ε' → Prop} {c : ε → ε'}
    (h : Paired excused like same x y) (hexcused : ∀ {e}, excused e → excused' (c e))
    (hlike : ∀ {e e'}, like e e' → like' (c e) (c e')) :
    Paired excused' like' same (x.mapError c) (y.mapError c) := by
  cases h with
  | ok h => exact .ok h
  | error h => exact .error (hlike h)
  | left h => exact .left (hexcused h) _
  | right h => exact .right (hexcused h) _

end Paired

namespace CommandLine

/-! ### Apart from logging -/

/-- Whether a flag is for logging. -/
def Flag.isLogging : Flag → Bool
  | logLevel => true
  | logJson => true
  | _ => false

/-- The overrides of anything but logging. -/
def Overrides.quiet (o : Overrides) : Overrides :=
  { o with
    logLevel := none
    logJson := none }

/-- What has been given for anything but logging. -/
def Given.quiet (g : Given) : Given := { g with overrides := g.overrides.quiet }

namespace Stop

/-- Whether something is wrong with the arguments. -/
def isFault : Stop → Bool
  | fault _ => true
  | _ => false

/-- The reason to stop is that a flag for logging is wrong. -/
def BlamesLogging (s : Stop) : Prop :=
  ∃ e f, s = .fault e ∧ e.flag? = some f ∧ f.isLogging = true

/-- Reasons to stop that show the same, or one of which is a fault. -/
def Like (s s' : Stop) : Prop := s = s' ∨ s.isFault = true ∨ s'.isFault = true

end Stop

/-- Results of reading arguments that are alike, unless a flag for logging is wrong. -/
abbrev Agrees {α : Type} (same : α → α → Prop) : Except Stop α → Except Stop α → Prop :=
  Paired Stop.BlamesLogging Stop.Like same

/-- The same has been given for anything but logging. -/
def Given.Same (g g' : Given) : Prop := g.quiet = g'.quiet

section Accept

variable {g g' g₁ : Given} {f : Flag} {v : String} {e : UsageError}

theorem Given.quiet_eq (g : Given) : g.quiet = (g.clear .logLevel).clear .logJson := rfl

theorem flag?_of_once {α : Type} {old : Option α} {new : Except UsageError α}
    (hnew : ∀ e, new = .error e → e.flag? = some f) (h : once f old new = .error e) :
    e.flag? = some f := by
  rw [once] at h
  split at h
  · cases h
    rfl
  · cases new with
    | error e' =>
      cases h
      exact hnew e rfl
    | ok a => cases h

theorem flag?_of_map {α β : Type} {x : Except UsageError α} {set : α → β}
    (hx : ∀ e, x = .error e → e.flag? = some f) (h : x.map set = .error e) : e.flag? = some f := by
  cases x with
  | error e' =>
    cases h
    exact hx e rfl
  | ok a => cases h

theorem flag?_of_readSwitch {b : String} (h : readSwitch f b = .error e) : e.flag? = some f := by
  rw [readSwitch] at h
  split at h
  · cases h
  · split at h <;> cases h
    rfl

/-- A value that is wrong for a flag for logging is put down to that flag. -/
theorem blamesLogging_of_accept (hf : f.isLogging = true) (h : g.accept f v = .error e) :
    (Stop.fault e).BlamesLogging := by
  refine ⟨e, f, rfl, ?_, hf⟩
  cases f with
  | logLevel =>
    refine flag?_of_map (fun e he => flag?_of_once ?_ he) h
    rintro _ ⟨⟩
  | logJson => exact flag?_of_map (fun e he => flag?_of_once (fun _ => flag?_of_readSwitch) he) h
  | _ => cases hf

theorem same_of_accept (hf : f.isLogging = true) (h : g.accept f v = .ok g₁) : g₁.Same g := by
  have hclear := Given.clear_of_accept h
  cases f with
  | logLevel => exact congrArg (·.clear .logJson) hclear
  | logJson => exact congrArg (·.clear .logLevel) hclear
  | _ => cases hf

theorem accept_quiet (hf : f.isLogging = false) :
    g.quiet.accept f v = (g.accept f v).map Given.quiet := by
  have hlevel : f ≠ .logLevel := by
    rintro rfl
    cases hf
  have hjson : f ≠ .logJson := by
    rintro rfl
    cases hf
  rw [Given.quiet_eq, Given.accept_clear hjson, Given.accept_clear hlevel]
  cases g.accept f v <;> rfl

/-- A value for anything but logging is taken alike. -/
theorem accept_same (hf : f.isLogging = false) (hg : g.Same g') :
    (∃ g₁ g₁', g.accept f v = .ok g₁ ∧ g'.accept f v = .ok g₁' ∧ g₁.Same g₁') ∨
      ∃ e, g.accept f v = .error e ∧ g'.accept f v = .error e := by
  have hmap : (g.accept f v).map Given.quiet = (g'.accept f v).map Given.quiet := by
    rw [← accept_quiet hf, ← accept_quiet hf, hg]
  cases h : g.accept f v with
  | error e =>
    cases h' : g'.accept f v with
    | error e' =>
      rw [h, h'] at hmap
      cases hmap
      exact .inr ⟨e, rfl, rfl⟩
    | ok g₁' =>
      rw [h, h'] at hmap
      cases hmap
  | ok g₁ =>
    cases h' : g'.accept f v with
    | error e' =>
      rw [h, h'] at hmap
      cases hmap
    | ok g₁' =>
      rw [h, h'] at hmap
      exact .inl ⟨g₁, g₁', rfl, rfl, Except.ok.inj hmap⟩

theorem accept_paired (hg : g.Same g') (f : Flag) (v : String) :
    Paired (fun e => (Stop.fault e).BlamesLogging) Eq Given.Same (g.accept f v)
      (g'.accept f v) := by
  cases hf : f.isLogging with
  | false =>
    rcases accept_same (v := v) hf hg with ⟨g₁, g₁', h, h', hsame⟩ | ⟨e, h, h'⟩
    · rw [h, h']
      exact .ok hsame
    · rw [h, h']
      exact .error rfl
  | true =>
    cases h : g.accept f v with
    | error e =>
      refine .left ?_ _
      exact blamesLogging_of_accept hf h
    | ok g₁ =>
      cases h' : g'.accept f v with
      | error e =>
        refine .right ?_ _
        exact blamesLogging_of_accept hf h'
      | ok g₁' => exact .ok ((same_of_accept hf h).trans (hg.trans (same_of_accept hf h').symm))

end Accept

/-! ### The same arguments -/

theorem Stop.Like.refl (s : Stop) : s.Like s := .inl rfl

theorem agrees_of_faults {α : Type} {same : α → α → Prop} {x y : Except Stop α}
    (hx : ∃ e, x = .error (.fault e)) (hy : ∃ e, y = .error (.fault e)) : Agrees same x y := by
  obtain ⟨e, rfl⟩ := hx
  obtain ⟨e', rfl⟩ := hy
  exact .error (.inr (.inl rfl))

section Same

variable {level : Level} {help : String} {g g' : Given} {p : Pending}

theorem accept_agrees (hg : g.Same g') (f : Flag) (v : String) :
    Agrees Given.Same ((g.accept f v).mapError .fault) ((g'.accept f v).mapError .fault) :=
  (accept_paired hg f v).mapError id fun h => .inl (congrArg Stop.fault h)

theorem Pending.settle_holding_eq (f : Flag) (v : String) (g : Given) :
    (holding f v).settle g = (g.accept f v).mapError .fault := by
  simp only [settle]
  cases g.accept f v <;> rfl

theorem Pending.stop_eq (p : Pending) (g : Given) (stop : Stop) :
    p.stop g stop = (p.settle g).bind fun _ => .error stop := by
  rw [Pending.stop]
  cases p.settle g <;> rfl

theorem takeFlag_eq {name : String} {f : Flag} (flag : level.flag? name = some f) (g : Given)
    (p : Pending) (value : Option String) :
    takeFlag level help g p (.long name value) =
      (p.settle g).bind fun g =>
        match value with
        | none => .ok (g, .awaiting f)
        | some v => ((g.accept f v).mapError .fault).bind fun g => .ok (g, .nothing) := by
  simp only [takeFlag, flag]
  cases p.settle g with
  | error s => rfl
  | ok g =>
    cases value with
    | none => rfl
    | some v =>
      dsimp only [Except.bind]
      cases g.accept f v <;> rfl

theorem settle_agrees (hg : g.Same g') (p : Pending) :
    Agrees Given.Same (p.settle g) (p.settle g') := by
  cases p with
  | nothing => exact .ok hg
  | awaiting f => exact .error (.refl _)
  | holding f v =>
    rw [Pending.settle_holding_eq, Pending.settle_holding_eq]
    exact accept_agrees hg f v

theorem stop_agrees {same : Given × Pending → Given × Pending → Prop} (hg : g.Same g')
    (p : Pending) (stop : Stop) : Agrees same (p.stop g stop) (p.stop g' stop) := by
  rw [Pending.stop_eq, Pending.stop_eq]
  exact (settle_agrees hg p).bind fun _ => .error (.refl stop)

/-- What is given and pending after a flag, apart from logging. -/
def SamePending (r r' : Given × Pending) : Prop := r.1.Same r'.1 ∧ r.2 = r'.2

theorem takeFlag_agrees (hg : g.Same g') (p : Pending) (shape : Shape) :
    Agrees SamePending (takeFlag level help g p shape) (takeFlag level help g' p shape) := by
  cases shape with
  | long name value =>
    cases hflag : level.flag? name with
    | some f =>
      rw [takeFlag_eq hflag, takeFlag_eq hflag]
      refine (settle_agrees hg p).bind fun hsame => ?_
      cases value with
      | none => exact .ok ⟨hsame, rfl⟩
      | some v => exact (accept_agrees hsame f v).bind fun h => .ok ⟨h, rfl⟩
    | none =>
      simp only [takeFlag, hflag]
      split
      · cases value with
        | some v => exact .error (.refl _)
        | none => exact stop_agrees hg p _
      · exact .error (.refl _)
  | short letters =>
    cases letters with
    | nil => exact .ok ⟨hg, rfl⟩
    | cons c letters =>
      simp only [takeFlag]
      split
      · exact stop_agrees hg p _
      · split
        · exact stop_agrees hg p _
        · exact .error (.refl _)
  | terminator => exact .ok ⟨hg, rfl⟩
  | word => exact .ok ⟨hg, rfl⟩

namespace Reads

variable {β : Type} {read : Given → Pending → List String → Except Stop β} {same : β → β → Prop}

/-- The same arguments are read alike, if what comes after the flags is. -/
theorem agrees_self (h : Reads level help read)
    (htail : ∀ {g g'} p {rest}, g.Same g' → Tail rest → (∀ f, p ≠ .awaiting f) →
      Agrees same (read g p rest) (read g' p rest))
    (hg : g.Same g') (p : Pending) (arguments : List String) :
    Agrees same (read g p arguments) (read g' p arguments) := by
  induction arguments generalizing g g' p with
  | nil =>
    cases p with
    | awaiting f => exact agrees_of_faults (h.missing_nil g f) (h.missing_nil g' f)
    | nothing => exact htail _ hg tail_nil nofun
    | holding f v => exact htail _ hg tail_nil nofun
  | cons argument rest ih =>
    cases hshape : shapeOf argument with
    | long name value =>
      rw [h.long hshape, h.long hshape]
      refine (takeFlag_agrees hg p _).bind ?_
      rintro ⟨g₁, q⟩ ⟨g₁', _⟩ ⟨hsame, rfl⟩
      exact ih hsame q
    | short letters =>
      rw [h.short hshape, h.short hshape]
      refine (takeFlag_agrees hg p _).bind ?_
      rintro ⟨g₁, q⟩ ⟨g₁', _⟩ ⟨hsame, rfl⟩
      exact ih hsame q
    | terminator =>
      cases p with
      | awaiting f =>
        have hmissing (g : Given) := h.missing_terminator hshape g f rest
        exact agrees_of_faults (hmissing g) (hmissing g')
      | nothing => exact htail _ hg (tail_cons (.inl hshape) rest) nofun
      | holding f v => exact htail _ hg (tail_cons (.inl hshape) rest) nofun
    | word =>
      cases p with
      | awaiting f =>
        rw [h.value hshape, h.value hshape]
        exact ih hg _
      | nothing => exact htail _ hg (tail_cons (.inr hshape) rest) nofun
      | holding f v => exact htail _ hg (tail_cons (.inr hshape) rest) nofun

end Reads

theorem finish_agrees (hg : g.Same g') (level : Level) (p : Pending) (rest : List String) :
    Agrees Given.Same (finish level g p rest) (finish level g' p rest) := by
  cases rest with
  | nil => exact settle_agrees hg p
  | cons word rest => exact .error (.refl _)

theorem readSubcommand_agrees_self (hg : g.Same g') (p : Pending) (arguments : List String) :
    Agrees Given.Same (readSubcommand level g p arguments)
      (readSubcommand level g' p arguments) := by
  refine (reads_readSubcommand level).agrees_self (fun {g g'} p {rest} hg hrest hp => ?_) hg p
    arguments
  cases rest with
  | nil => exact settle_agrees hg p
  | cons argument rest =>
    rcases hrest argument rest rfl with hshape | hshape
    · simp only [readSubcommand, hshape]
      exact finish_agrees hg level p rest
    · cases p with
      | awaiting f => exact absurd rfl (hp f)
      | nothing =>
        simp only [readSubcommand, hshape]
        exact .error (.refl _)
      | holding f v =>
        simp only [readSubcommand, hshape]
        exact .error (.refl _)

/-- What is given and asked for, apart from logging. -/
def SameAction (r r' : Given × Option Action) : Prop := r.1.Same r'.1 ∧ r.2 = r'.2

theorem Given.Same.actionOf_eq (hg : g.Same g') (level : Level) :
    actionOf level g = actionOf level g' := by
  have hquiet (g : Given) : actionOf level g = actionOf level g.quiet := rfl
  rw [hquiet g, hg, ← hquiet]

theorem Given.Same.or {later later' : Given} (hg : g.Same g') (hlater : later.Same later') :
    Given.Same { g with overrides := later.overrides.or g.overrides }
      { g' with overrides := later'.overrides.or g'.overrides } := by
  have hquiet (later g : Given) :
      Given.quiet { g with overrides := later.overrides.or g.overrides } =
        { g.quiet with overrides := later.quiet.overrides.or g.quiet.overrides } :=
    rfl
  rw [Given.Same, hquiet, hquiet, hg, hlater]

/-- An action is read alike if what comes after its name is. -/
theorem readAction_agrees (hg : g.Same g') (p : Pending) {a b : List String}
    (h : Agrees Given.Same (readSubcommand level {} .nothing a)
      (readSubcommand level {} .nothing b)) :
    Agrees SameAction (readAction level g p a) (readAction level g' p b) := by
  -- what is pending before the name is looked at last
  have hread (g : Given) (rest : List String) : readAction level g p rest =
      (readSubcommand level {} .nothing rest).bind fun later =>
        ((actionOf level later).mapError Stop.fault).bind fun action =>
          (p.settle g).bind fun g =>
            .ok ({ g with overrides := later.overrides.or g.overrides }, some action) := by
    rw [readAction]
    cases readSubcommand level {} .nothing rest with
    | error s => rfl
    | ok later =>
      dsimp only [Except.bind]
      cases actionOf level later with
      | error e => rfl
      | ok action => cases p.settle g <;> rfl
  rw [hread, hread]
  refine h.bind fun {later later'} hlater => ?_
  rw [hlater.actionOf_eq]
  cases actionOf level later' with
  | error e => exact .error (.refl _)
  | ok action => exact (settle_agrees hg p).bind fun hg => .ok ⟨hg.or hlater, rfl⟩

theorem readProgram_agrees_self (shown : String) (hg : g.Same g') (p : Pending)
    (arguments : List String) :
    Agrees SameAction (readProgram shown g p arguments) (readProgram shown g' p arguments) := by
  refine (reads_readProgram shown).agrees_self (fun {g g'} p {rest} hg hrest hp => ?_) hg p
    arguments
  have hend (x y : Except Stop Given) (h : Agrees Given.Same x y) :
      Agrees SameAction (x.map fun g => (g, (none : Option Action)))
        (y.map fun g => (g, (none : Option Action))) :=
    h.bind fun h => .ok ⟨h, rfl⟩
  cases rest with
  | nil => exact hend _ _ (settle_agrees hg p)
  | cons argument rest =>
    rcases hrest argument rest rfl with hshape | hshape
    · simp only [readProgram, hshape]
      exact hend _ _ (finish_agrees hg .program p rest)
    · have hread (g : Given) : readProgram shown g p (argument :: rest) =
          if argument = "help" then .error (helpFor shown rest)
          else (subcommand? argument).elim (.error (.fault (misplaced .program false argument)))
            fun level => readAction level g p rest := by
        cases p with
        | awaiting f => exact absurd rfl (hp f)
        | nothing =>
          simp only [readProgram, hshape]
          cases subcommand? argument <;> rfl
        | holding f v =>
          simp only [readProgram, hshape]
          cases subcommand? argument <;> rfl
      rw [hread, hread]
      split
      · exact .error (.refl _)
      · cases subcommand? argument with
        | some level => exact readAction_agrees hg p (readSubcommand_agrees_self rfl _ _)
        | none => exact .error (.refl _)

end Same

/-! ### Arguments that differ in logging -/

/-- An argument at a level that nobody reads on after: it looks like a flag that takes no value, or
it is a word that has no place there. -/
inductive Level.Stops (level : Level) (argument : String) : Prop
  | long {name : String} {value : Option String} (shape : shapeOf argument = .long name value)
    (hflag : level.flag? name = none)
  | short {letters : List Char} (shape : shapeOf argument = .short letters)
  | word (shape : shapeOf argument = .word)
    (hprogram : level = .program → argument ≠ "help" ∧ subcommand? argument = none)

/-- Whether no value comes next. -/
def NoValue (arguments : List String) : Prop :=
  ∀ argument rest, arguments = argument :: rest → shapeOf argument ≠ .word

/-- Arguments that differ only in flags for logging, with their values. Such a flag may come or go,
or have another value, wherever a flag may stand. -/
inductive Apart : Level → List String → List String → Prop
  | same (level : Level) (arguments : List String) : Apart level arguments arguments
  | flag {level : Level} {flag a b : List String} {item : Flag × String}
    (h : Spells level flag [item]) (hrest : Apart level a b) :
    Apart level (flag ++ a) (flag ++ b)
  | left {level : Level} {flag a b : List String} {item : Flag × String}
    (h : Spells level flag [item]) (hlogging : item.1.isLogging = true)
    (hrest : Apart level a b) : Apart level (flag ++ a) b
  | right {level : Level} {flag a b : List String} {item : Flag × String}
    (h : Spells level flag [item]) (hlogging : item.1.isLogging = true)
    (hrest : Apart level a b) : Apart level a (flag ++ b)
  | stop {level : Level} {argument : String} (h : level.Stops argument) (a b : List String) :
    Apart level (argument :: a) (argument :: b)
  | missing {level : Level} {argument name : String} {f : Flag} {a b : List String}
    (shape : shapeOf argument = .long name none) (flag : level.flag? name = some f)
    (ha : NoValue a) (hb : NoValue b) : Apart level (argument :: a) (argument :: b)
  | subcommand {level : Level} {word : String} {a b : List String} (shape : shapeOf word = .word)
    (hword : subcommand? word = some level) (hrest : Apart level a b) :
    Apart .program (word :: a) (word :: b)

/-! ### Wrong values

A value that is wrong is not found out at once: something that comes after it may be the first to be
reported. What is reported then does not depend on the value. -/

/-- A result that is one error, or an error that is also the result of something else. -/
def Fails {α : Type} (s : Stop) (x y : Except Stop α) : Prop :=
  x = .error s ∨ ∃ s', x = .error s' ∧ y = .error s'

theorem Fails.bind {α β : Type} {s : Stop} {x y : Except Stop α} (h : Fails s x y)
    (k k' : α → Except Stop β) : Fails s (x.bind k) (y.bind k') := by
  rcases h with rfl | ⟨s', rfl, rfl⟩
  · exact .inl rfl
  · exact .inr ⟨s', rfl, rfl⟩

section Fails

variable {α : Type} {s s' : Stop} {same : α → α → Prop} {x x' y y' z : Except Stop α}

/-- Where one side fails for a flag for logging, there is nothing to compare. -/
theorem Fails.agrees_left (h : Fails s x y) (hs : s.BlamesLogging) (hy : Agrees same y z) :
    Agrees same x z := by
  rcases h with rfl | ⟨s', rfl, rfl⟩
  · exact .left hs z
  · exact hy

theorem Fails.agrees_right (h : Fails s x y) (hs : s.BlamesLogging) (hy : Agrees same z y) :
    Agrees same z x := by
  rcases h with rfl | ⟨s', rfl, rfl⟩
  · exact .right hs z
  · exact hy

theorem Fails.exists_error (h : Fails s x y) : ∃ s', x = .error s' := by
  rcases h with rfl | ⟨s', rfl, -⟩
  · exact ⟨s, rfl⟩
  · exact ⟨s', rfl⟩

/-- Where both sides fail, one of them for a fault, there is no more to compare. -/
theorem Fails.agrees (h : Fails s x y) (hs : s.isFault = true) (h' : Fails s x' y')
    (hy : Agrees same y y') : Agrees same x x' := by
  obtain ⟨t, ht⟩ := h.exists_error
  obtain ⟨t', ht'⟩ := h'.exists_error
  rcases h with rfl | ⟨s₁, rfl, rfl⟩
  · rw [ht']
    exact .error (.inr (.inl hs))
  · rcases h' with rfl | ⟨s₂, rfl, rfl⟩
    · exact .error (.inr (.inr hs))
    · exact hy

end Fails

section Wrong

variable {level : Level} {help : String} {g : Given} {f : Flag} {v : String} {e : UsageError}

theorem fails_stop (haccept : g.accept f v = .error e) (stop : Stop) :
    Fails (.fault e) ((Pending.holding f v).stop g stop) (Pending.nothing.stop g stop) := by
  rw [Pending.stop, Pending.settle_holding_error haccept]
  exact .inl rfl

theorem fails_takeFlag (haccept : g.accept f v = .error e) {shape : Shape}
    (hshape : (∃ name value, shape = .long name value) ∨
      ∃ c letters, shape = .short (c :: letters)) :
    Fails (.fault e) (takeFlag level help g (.holding f v) shape)
      (takeFlag level help g .nothing shape) := by
  rcases hshape with ⟨name, value, rfl⟩ | ⟨c, letters, rfl⟩
  · cases hflag : level.flag? name with
    | some f' =>
      rw [takeFlag_eq hflag, Pending.settle_holding_error haccept]
      exact .inl rfl
    | none =>
      simp only [takeFlag, hflag]
      split
      · cases value with
        | some v => exact .inr ⟨_, rfl, rfl⟩
        | none => exact fails_stop haccept _
      · exact .inr ⟨_, rfl, rfl⟩
  · simp only [takeFlag]
    split
    · exact fails_stop haccept _
    · split
      · exact fails_stop haccept _
      · exact .inr ⟨_, rfl, rfl⟩

theorem takeFlag_awaiting_long (level : Level) (help : String) (g : Given) (f : Flag)
    (name : String) (value : Option String) :
    ∃ e, takeFlag level help g (.awaiting f) (.long name value) = .error (.fault e) := by
  cases hflag : level.flag? name with
  | some f' => exact ⟨.missingValue f, by rw [takeFlag_eq hflag]; rfl⟩
  | none =>
    simp only [takeFlag, hflag]
    split
    · cases value with
      | some v => exact ⟨_, rfl⟩
      | none => exact ⟨_, rfl⟩
    · exact ⟨_, rfl⟩

theorem takeFlag_awaiting_short (level : Level) (help : String) (g : Given) (f : Flag) (c : Char)
    (letters : List Char) :
    ∃ e, takeFlag level help g (.awaiting f) (.short (c :: letters)) = .error (.fault e) := by
  simp only [takeFlag]
  split
  · exact ⟨_, rfl⟩
  · split <;> exact ⟨_, rfl⟩

theorem takeFlag_stops_long (level : Level) (help : String) {name : String}
    (hflag : level.flag? name = none) (value : Option String) :
    ∃ s, ∀ g, takeFlag level help g .nothing (.long name value) = .error s := by
  simp only [takeFlag, hflag]
  split
  · cases value with
    | some v => exact ⟨_, fun _ => rfl⟩
    | none => exact ⟨_, fun _ => rfl⟩
  · exact ⟨_, fun _ => rfl⟩

theorem takeFlag_stops_short (level : Level) (help : String) (c : Char) (letters : List Char) :
    ∃ s, ∀ g, takeFlag level help g .nothing (.short (c :: letters)) = .error s := by
  simp only [takeFlag]
  split
  · exact ⟨_, fun _ => rfl⟩
  · split <;> exact ⟨_, fun _ => rfl⟩

end Wrong

namespace Reads

variable {level : Level} {help : String} {β : Type}
  {read : Given → Pending → List String → Except Stop β} {same : β → β → Prop}
  {g g' g₁ : Given} {f : Flag} {v : String} {flag a b : List String}

theorem fails_holding (h : Reads level help read) {e : UsageError}
    (haccept : g.accept f v = .error e) (rest : List String) :
    Fails (.fault e) (read g (.holding f v) rest) (read g .nothing rest) := by
  cases rest with
  | nil => exact h.unsettled tail_nil haccept
  | cons argument rest =>
    cases hshape : shapeOf argument with
    | terminator => exact h.unsettled (tail_cons (.inl hshape) rest) haccept
    | word => exact h.unsettled (tail_cons (.inr hshape) rest) haccept
    | long name value =>
      rw [h.long hshape, h.long hshape]
      exact (fails_takeFlag haccept (.inl ⟨name, value, rfl⟩)).bind _ _
    | short letters =>
      cases letters with
      | nil => exact absurd hshape (shapeOf_ne_short_nil argument)
      | cons c letters =>
        rw [h.short hshape, h.short hshape]
        exact (fails_takeFlag haccept (.inr ⟨c, letters, rfl⟩)).bind _ _

/-- Where the value of a flag is wrong, that is the fault, or another one comes first. -/
theorem fails_flag (h : Reads level help read) (hflag : Spells level flag [(f, v)]) {e : UsageError}
    (haccept : g.accept f v = .error e) (rest : List String) :
    Fails (.fault e) (read g .nothing (flag ++ rest)) (read g .nothing rest) := by
  cases hflag with
  | joined shape flag hnil =>
    cases hnil
    rw [List.cons_append, h.long shape, takeFlag_eq flag, Pending.settle_nothing]
    dsimp only [Except.bind]
    rw [haccept]
    exact .inl rfl
  | apart shape flag word hnil =>
    cases hnil
    rw [List.cons_append, List.cons_append, h.long shape, takeFlag_none flag]
    exact (congrArg (Fails _ · _) (h.value word g _ _)).mpr (h.fails_holding haccept rest)

theorem missing_of_noValue (h : Reads level help read) {rest : List String} (hrest : NoValue rest)
    (g : Given) (f : Flag) : ∃ e, read g (.awaiting f) rest = .error (.fault e) := by
  cases rest with
  | nil => exact h.missing_nil g f
  | cons argument rest =>
    cases hshape : shapeOf argument with
    | word => exact absurd hshape (hrest argument rest rfl)
    | terminator => exact h.missing_terminator hshape g f rest
    | long name value =>
      obtain ⟨e, he⟩ := takeFlag_awaiting_long level help g f name value
      rw [h.long hshape, he]
      exact ⟨e, rfl⟩
    | short letters =>
      cases letters with
      | nil => exact absurd hshape (shapeOf_ne_short_nil argument)
      | cons c letters =>
        obtain ⟨e, he⟩ := takeFlag_awaiting_short level help g f c letters
        rw [h.short hshape, he]
        exact ⟨e, rfl⟩

/-! ### One difference after the other -/

/-- A flag for logging may come. -/
theorem agrees_left (h : Reads level help read) {z : Except Stop β}
    (hflag : Spells level flag [(f, v)]) (hf : f.isLogging = true)
    (hrest : ∀ {g}, g.Same g' → Agrees same (read g .nothing a) z) (hg : g.Same g') :
    Agrees same (read g .nothing (flag ++ a)) z := by
  cases haccept : g.accept f v with
  | error e =>
    have hblames := blamesLogging_of_accept hf haccept
    exact (h.fails_flag hflag haccept a).agrees_left hblames (hrest hg)
  | ok g₁ =>
    rw [h.append hflag (acceptAll_cons_eq_ok_iff.mpr ⟨g₁, haccept, rfl⟩)]
    exact hrest ((same_of_accept hf haccept).trans hg)

theorem agrees_right (h : Reads level help read) {z : Except Stop β}
    (hflag : Spells level flag [(f, v)]) (hf : f.isLogging = true)
    (hrest : ∀ {g'}, g.Same g' → Agrees same z (read g' .nothing b)) (hg : g.Same g') :
    Agrees same z (read g' .nothing (flag ++ b)) := by
  cases haccept : g'.accept f v with
  | error e =>
    have hblames := blamesLogging_of_accept hf haccept
    exact (h.fails_flag hflag haccept b).agrees_right hblames (hrest hg)
  | ok g₁ =>
    rw [h.append hflag (acceptAll_cons_eq_ok_iff.mpr ⟨g₁, haccept, rfl⟩)]
    exact hrest (hg.trans (same_of_accept hf haccept).symm)

/-- Any flag may come on both sides. -/
theorem agrees_flag (h : Reads level help read) (hflag : Spells level flag [(f, v)])
    (hrest : ∀ {g g'}, g.Same g' → Agrees same (read g .nothing a) (read g' .nothing b))
    (hg : g.Same g') :
    Agrees same (read g .nothing (flag ++ a)) (read g' .nothing (flag ++ b)) := by
  cases hf : f.isLogging with
  | true =>
    -- what one side has of it need not be what the other side has, so they take turns
    exact h.agrees_left hflag hf (fun hg => h.agrees_right hflag hf (fun hg => hrest hg) hg) hg
  | false =>
    rcases accept_same (v := v) hf hg with ⟨g₁, g₁', haccept, haccept', hsame⟩ | ⟨e, he, he'⟩
    · rw [h.append hflag (acceptAll_cons_eq_ok_iff.mpr ⟨g₁, haccept, rfl⟩),
        h.append hflag (acceptAll_cons_eq_ok_iff.mpr ⟨g₁', haccept', rfl⟩)]
      exact hrest hsame
    · exact (h.fails_flag hflag he a).agrees rfl (h.fails_flag hflag he' b) (hrest hg)

theorem agrees_stop (h : Reads level help read) {argument : String}
    (hstops : level.Stops argument)
    (hword : shapeOf argument = .word →
      (level = .program → argument ≠ "help" ∧ subcommand? argument = none) →
      ∃ s, ∀ g rest, read g .nothing (argument :: rest) = .error s) :
    Agrees same (read g .nothing (argument :: a)) (read g' .nothing (argument :: b)) := by
  cases hstops with
  | word hshape hprogram =>
    obtain ⟨s, hs⟩ := hword hshape hprogram
    rw [hs, hs]
    exact .error (.refl s)
  | @long _ value hshape hflag =>
    obtain ⟨s, hs⟩ := takeFlag_stops_long level help hflag value
    rw [h.long hshape, h.long hshape, hs, hs]
    exact .error (.refl s)
  | @short letters hshape =>
    cases letters with
    | nil => exact absurd hshape (shapeOf_ne_short_nil argument)
    | cons c letters =>
      obtain ⟨s, hs⟩ := takeFlag_stops_short level help c letters
      rw [h.short hshape, h.short hshape, hs, hs]
      exact .error (.refl s)

theorem agrees_noValue (h : Reads level help read) {argument name : String}
    (hshape : shapeOf argument = .long name none) (hflag : level.flag? name = some f)
    (ha : NoValue a) (hb : NoValue b) :
    Agrees same (read g .nothing (argument :: a)) (read g' .nothing (argument :: b)) := by
  rw [h.long hshape, h.long hshape, takeFlag_none hflag, takeFlag_none hflag]
  exact agrees_of_faults (h.missing_of_noValue ha g f) (h.missing_of_noValue hb g' f)

end Reads

/-! ### All of the differences -/

theorem ne_program_of_subcommand? {level : Level} {word : String}
    (h : subcommand? word = some level) : level ≠ .program := by
  rintro rfl
  rw [subcommand?] at h
  split at h
  · cases h
  · split at h <;> cases h

section All

variable {level : Level} {g g' : Given} {a b : List String}

/-- After a subcommand, arguments that differ only in logging are read alike. -/
theorem readSubcommand_agrees (h : Apart level a b) (hlevel : level ≠ .program) (hg : g.Same g') :
    Agrees Given.Same (readSubcommand level g .nothing a) (readSubcommand level g' .nothing b) := by
  induction h generalizing g g' with
  | same level arguments => exact readSubcommand_agrees_self hg .nothing arguments
  | flag hflag _ ih => exact (reads_readSubcommand _).agrees_flag hflag (fun hg => ih hlevel hg) hg
  | left hflag hlogging _ ih =>
    exact (reads_readSubcommand _).agrees_left hflag hlogging (fun hg => ih hlevel hg) hg
  | right hflag hlogging _ ih =>
    exact (reads_readSubcommand _).agrees_right hflag hlogging (fun hg => ih hlevel hg) hg
  | @stop level word hstops a b =>
    refine (reads_readSubcommand level).agrees_stop hstops fun hshape _ => ?_
    refine ⟨.fault (misplaced level false word), fun g rest => ?_⟩
    simp only [readSubcommand, hshape]
  | missing shape hflag ha hb => exact (reads_readSubcommand _).agrees_noValue shape hflag ha hb
  | subcommand => exact absurd rfl hlevel

/-- Arguments that differ only in logging are read alike. -/
theorem readProgram_agrees (shown : String) (h : Apart .program a b) (hg : g.Same g') :
    Agrees SameAction (readProgram shown g .nothing a) (readProgram shown g' .nothing b) := by
  generalize hlevel : Level.program = level at h
  induction h generalizing g g' with
  | same level arguments => exact readProgram_agrees_self shown hg .nothing arguments
  | flag hflag _ ih =>
    subst hlevel
    exact (reads_readProgram shown).agrees_flag hflag (fun hg => ih hg rfl) hg
  | left hflag hlogging _ ih =>
    subst hlevel
    exact (reads_readProgram shown).agrees_left hflag hlogging (fun hg => ih hg rfl) hg
  | right hflag hlogging _ ih =>
    subst hlevel
    exact (reads_readProgram shown).agrees_right hflag hlogging (fun hg => ih hg rfl) hg
  | @stop _ word hstops a b =>
    subst hlevel
    refine (reads_readProgram shown).agrees_stop hstops fun hshape hprogram => ?_
    obtain ⟨hhelp, hnone⟩ := hprogram rfl
    refine ⟨.fault (misplaced .program false word), fun g rest => ?_⟩
    simp only [readProgram, hshape, if_neg hhelp, hnone]
  | missing shape hflag ha hb =>
    subst hlevel
    exact (reads_readProgram shown).agrees_noValue shape hflag ha hb
  | subcommand shape hword hrest =>
    rw [readProgram_word shape hword, readProgram_word shape hword]
    exact readAction_agrees hg .nothing
      (readSubcommand_agrees hrest (ne_program_of_subcommand? hword) rfl)

/-- The same arguments, apart from logging. -/
structure SameArguments (x y : Arguments) : Prop where
  configFile : x.configFile = y.configFile
  overrides : x.overrides.quiet = y.overrides.quiet
  action : x.action = y.action

/-- Arguments that differ only in logging ask for the same. -/
theorem parse_agrees (named : Option String) (h : Apart .program a b) :
    Agrees SameArguments (parse named a) (parse named b) := by
  have hparse (arguments : List String) : parse named arguments =
      (readProgram (named.getD "") {} .nothing arguments).bind fun r =>
        ((configFileOf r.1.configFile named).mapError Stop.fault).bind fun path =>
          .ok ⟨path, r.1.overrides, r.2⟩ := by
    rw [parse]
    cases readProgram (named.getD "") {} .nothing arguments with
    | error s => rfl
    | ok r =>
      obtain ⟨g, action⟩ := r
      dsimp only [Except.bind]
      cases configFileOf g.configFile named <;> rfl
  rw [hparse, hparse]
  refine (readProgram_agrees _ h rfl).bind ?_
  rintro ⟨g, action⟩ ⟨g', _⟩ ⟨hg, rfl⟩
  have hfile : g.quiet.configFile = g'.quiet.configFile := congrArg Given.configFile hg
  have hoverrides : g.quiet.overrides = g'.quiet.overrides := congrArg Given.overrides hg
  have hread : configFileOf g.configFile named = configFileOf g'.configFile named :=
    congrArg (configFileOf · named) hfile
  dsimp only
  rw [hread]
  cases configFileOf g'.configFile named with
  | error e => exact .error (.refl _)
  | ok path => exact .ok ⟨rfl, hoverrides, rfl⟩

end All

end CommandLine

end Stagehand
