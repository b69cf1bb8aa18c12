import Mathlib.Logic.Function.Basic
import Mathlib.Logic.Relation
import Stagehand.Proofs.Cache.Connect

/-!
# Racing for the client
Any number of threads may ask a provider for its client at the same time. The client is kept in a
cell that they share: a thread that finds the cell empty waits, and one of the waiting threads at a
time may fill it. However their steps interleave, the connector is called once, everyone gets the
client of that one call, and a fallback is warned of and counted once.
-/

namespace Stagehand.CacheProvider

/-- A client as an instance: every attempt to make a client makes another one. -/
structure Handle where
  attempt : Nat
  client : CacheClient

/-- How far a thread is in asking for the client. The attempt of the one thread that makes a client
passes through the three phases in the middle. -/
inductive Race.Phase
  | idle
  | waiting
  | connecting (attempt : Nat)
  | falling (attempt : Nat)
  | built (handle : Handle)
  | leaving (handle : Handle)

/-- Threads that share a provider: the number of attempts so far, the cell for the client, the
thread that may fill it, how far each thread is, the world around them, and the handles that were
returned with the threads that got them. -/
structure Race where
  attempts : Nat := 0
  cell : Option Handle := none
  builder : Option Nat := none
  phase : Nat → Race.Phase := fun _ => .idle
  world : World
  returned : List (Nat × Handle) := []

namespace Race

/-- A thread goes on to a phase. -/
def move (s : Race) (t : Nat) (p : Phase) : Race := { s with phase := Function.update s.phase t p }

section Move

variable (s : Race) (t : Nat) (p : Phase)

theorem move_returned : (s.move t p).returned = s.returned := rfl

theorem move_phase_self : (s.move t p).phase t = p := Function.update_self ..

theorem move_phase_of_ne {u : Nat} (h : u ≠ t) : (s.move t p).phase u = s.phase u :=
  Function.update_of_ne h ..

end Move

variable (config : CacheConfig) (logger : Logger) (connector : Connector)

/-- The provider that the threads share. -/
def provider (s : Race) : CacheProvider :=
  ⟨config, logger, connector, s.attempts, s.cell.map Handle.client⟩

/-- One step of one thread, or of the commands that are carried out meanwhile. -/
inductive Step (s : Race) : Race → Prop
  /-- A caller who does not find a client has to wait for one. -/
  | enter {t : Nat} (phase : s.phase t = .idle) (empty : s.cell = none) :
    Step s (s.move t .waiting)
  /-- A caller who finds the client takes it, and so does one who has waited for it. -/
  | find {t : Nat} {h : Handle} (phase : s.phase t = .idle ∨ s.phase t = .waiting)
      (full : s.cell = some h) :
    Step s (s.move t (.leaving h))
  /-- A caller who still does not find a client calls the connector, unless someone else does. -/
  | start {t : Nat} (phase : s.phase t = .waiting) (empty : s.cell = none)
      (free : s.builder = none) :
    Step s { s.move t (.connecting s.attempts) with
      attempts := s.attempts + 1
      builder := some t }
  /-- The connector has made a backend. -/
  | connect {t n : Nat} {b : Backend} (phase : s.phase t = .connecting n)
      (made : connector n config = .ok b) :
    Step s { s.move t (.built ⟨n, .live b⟩) with world := s.world.report (readyEvent config) }
  /-- The connector has failed, and the fallback is warned of. -/
  | warn {t n : Nat} {e : CacheError} (phase : s.phase t = .connecting n)
      (failed : connector n config = .error e) :
    Step s { s.move t (.falling n) with
      world := s.world.log logger .warn fallbackWarning
        (Members.ofList [("error", .string e.message)]) }
  /-- The fallback is counted. -/
  | count {t n : Nat} (phase : s.phase t = .falling n) :
    Step s { s.move t (.built ⟨n, .fallback⟩) with world := s.world.count .fallbacks }
  /-- The client is put into the cell, where even its maker has to look for it. -/
  | publish {t : Nat} {h : Handle} (phase : s.phase t = .built h) :
    Step s { s.move t .waiting with
      cell := some h
      builder := none }
  /-- The client is returned to the caller, who may call again. -/
  | leave {t : Nat} {h : Handle} (phase : s.phase t = .leaving h) :
    Step s { s.move t .idle with returned := s.returned ++ [(t, h)] }
  /-- Commands are carried out, and time passes. -/
  | meanwhile {w : World} (later : s.world.Later w) : Step s { s with world := w }

/-- What can become of threads in any number of steps. -/
def Reaches : Race → Race → Prop := Relation.ReflTransGen (Step config logger connector)

/-! ### What every step keeps -/

/-- What has become known since a world of the first attempt: some of its warnings, and some of its
fallbacks counted. -/
structure Warned (w w' : World) (warnings fallbacks : Nat) : Prop where
  emitted : ∃ records, w'.journal.emitted = w.journal.emitted ++ records ∧
    records.length = warnings ∧
    ∀ r ∈ records, ∃ e, connector 0 config = .error e ∧ IsWarning e r
  kept (h : logger = .memory) : (w'.journal.recordsAt .warn).length =
    (w.journal.recordsAt .warn).length + warnings
  fallbacks : w'.metrics.total .fallbacks = w.metrics.total .fallbacks + fallbacks

/-- The client of the first attempt. -/
def settled : Handle := ⟨0, choice config connector⟩

/-- A thread that neither makes a client nor has one. -/
def Phase.Resting (p : Phase) : Prop := p = .idle ∨ p = .waiting

/-- Whether a thread makes a client. -/
def Phase.isMaking : Phase → Bool
  | connecting _ => true
  | falling _ => true
  | built _ => true
  | _ => false

/-- The phases of the first attempt, and what is known of its failure in each of them. -/
inductive Phase.Works : Phase → (warnings fallbacks : Nat) → Prop
  | connecting : Works (.connecting 0) 0 0
  | falling {e : CacheError} (failed : connector 0 config = .error e) : Works (.falling 0) 1 0
  | built : Works (.built (settled config connector)) (failures config connector)
      (failures config connector)

/-- How far the threads are together. No client is made yet, or one thread is making the first one,
or that client is there for everyone. -/
inductive Settling (w : World) (s : Race) : Prop
  | unmade (attempts : s.attempts = 0) (cell : s.cell = none) (builder : s.builder = none)
      (phase : ∀ t, (s.phase t).Resting) (returned : s.returned = [])
      (warned : Warned config logger connector w s.world 0 0)
  | working {t m n : Nat} (attempts : s.attempts = 1) (cell : s.cell = none)
      (builder : s.builder = some t) (work : (s.phase t).Works config connector m n)
      (phase : ∀ u ≠ t, (s.phase u).Resting) (returned : s.returned = [])
      (warned : Warned config logger connector w s.world m n)
  | published (attempts : s.attempts = 1) (cell : s.cell = some (settled config connector))
      (builder : s.builder = none)
      (phase : ∀ t, (s.phase t).Resting ∨ s.phase t = .leaving (settled config connector))
      (returned : ∀ r ∈ s.returned, r.2 = settled config connector)
      (warned : Warned config logger connector w s.world (failures config connector)
        (failures config connector))

variable {config logger connector} {w w' w'' : World} {m n : Nat}

theorem Warned.refl (w : World) : Warned config logger connector w w 0 0 where
  emitted := ⟨[], (List.append_nil _).symm, rfl, nofun⟩
  kept _ := rfl
  fallbacks := rfl

theorem Warned.later (h : Warned config logger connector w w' m n) (hw : w'.Later w'') :
    Warned config logger connector w w'' m n := by
  have hq := hw.quiet
  refine ⟨?_, fun hm => ?_, hq.fallbacks.trans h.fallbacks⟩
  · rw [hq.emitted]
    exact h.emitted
  · rw [← h.kept hm, Journal.recordsAt, Journal.recordsAt, hq.records]

/-- A backend that was made changes nothing in what is warned of. -/
theorem Warned.report (h : Warned config logger connector w w' m n) (e : Event) :
    Warned config logger connector w (w'.report e) m n :=
  ⟨h.emitted, h.kept, h.fallbacks⟩

theorem Warned.log (h : Warned config logger connector w w' m n) {e : CacheError}
    (failed : connector 0 config = .error e) :
    Warned config logger connector w (w'.log logger .warn fallbackWarning
      (Members.ofList [("error", .string e.message)])) (m + 1) n := by
  obtain ⟨records, hrecords, hlength, hwarnings⟩ := h.emitted
  refine ⟨⟨records ++ [.stamped .warn fallbackWarning
    (Members.ofList [("error", .string e.message)]) w'.now], ?_, ?_, ?_⟩, ?_, h.fallbacks⟩
  · rw [World.log, Logger.log, emitted_emit, hrecords, List.append_assoc]
  · rw [List.length_append, hlength]
    rfl
  · intro r hr
    rcases List.mem_append.mp hr with hr | hr
    · exact hwarnings r hr
    · obtain rfl := List.mem_singleton.mp hr
      exact ⟨e, failed, isWarning_stamped e _⟩
  · intro hm
    have hkept := h.kept hm
    subst hm
    exact (recordsAt_emit _ _).trans (congrArg (· + 1) hkept)

theorem Warned.count (h : Warned config logger connector w w' m n) :
    Warned config logger connector w (w'.count .fallbacks) m (n + 1) where
  emitted := h.emitted
  kept := h.kept
  fallbacks := by
    rw [World.total_count, h.fallbacks]
    rfl

theorem Phase.works_of_ok {b : Backend} (h : connector 0 config = .ok b) :
    (built ⟨0, .live b⟩).Works config connector 0 0 := by
  have hbuilt : Works config connector (.built (settled config connector)) _ _ := .built
  simp only [settled, choice, failures, h] at hbuilt
  exact hbuilt

theorem Phase.works_of_error {e : CacheError} (h : connector 0 config = .error e) :
    (built ⟨0, .fallback⟩).Works config connector 1 1 := by
  have hbuilt : Works config connector (.built (settled config connector)) _ _ := .built
  simp only [settled, choice, failures, h] at hbuilt
  exact hbuilt

variable {s s' : Race} {t : Nat} {p : Phase} {h : Handle}

/-- What holds of every thread still does after one thread has gone on. -/
theorem forall_move {P : Nat → Phase → Prop} (hall : ∀ u, P u (s.phase u)) (hp : P t p) (u : Nat) :
    P u ((s.move t p).phase u) :=
  (Function.forall_update_iff s.phase P).mpr ⟨hp, fun u _ => hall u⟩ u

theorem resting_move {t' : Nat} (hrest : ∀ u ≠ t', (s.phase u).Resting)
    (hp : t ≠ t' → p.Resting) : ∀ u ≠ t', ((s.move t p).phase u).Resting :=
  forall_move (P := fun u q => u ≠ t' → q.Resting) hrest hp

/-- Only a resting thread can call, and only then the cell may be empty. -/
theorem Settling.enter (hs : Settling config logger connector w s) (phase : s.phase t = .idle)
    (empty : s.cell = none) : Settling config logger connector w (s.move t .waiting) := by
  cases hs with
  | unmade attempts cell builder rest returned warned =>
    exact .unmade attempts cell builder (forall_move rest (.inr rfl)) returned warned
  | @working t' m n attempts cell builder work rest returned warned =>
    have hne : t' ≠ t := by
      rintro rfl
      rw [phase] at work
      cases work
    refine .working attempts cell builder ?_ (resting_move rest fun _ => .inr rfl) returned warned
    rw [move_phase_of_ne _ _ _ hne]
    exact work
  | published attempts cell builder rest returned warned =>
    rw [empty] at cell
    cases cell

/-- A client is found only where the first one was put. -/
theorem Settling.find (hs : Settling config logger connector w s) (full : s.cell = some h) :
    Settling config logger connector w (s.move t (.leaving h)) := by
  cases hs with
  | unmade _ cell =>
    rw [full] at cell
    cases cell
  | working _ cell =>
    rw [full] at cell
    cases cell
  | published attempts cell builder rest returned warned =>
    obtain rfl : h = settled config connector := Option.some.inj (full.symm.trans cell)
    refine .published attempts cell builder ?_ returned warned
    exact forall_move (P := fun _ q => q.Resting ∨ q = .leaving _) rest (.inr rfl)

/-- The connector is called only while no client was ever made. -/
theorem Settling.start (hs : Settling config logger connector w s) (empty : s.cell = none)
    (free : s.builder = none) :
    Settling config logger connector w { s.move t (.connecting s.attempts) with
      attempts := s.attempts + 1
      builder := some t } := by
  cases hs with
  | unmade attempts cell builder rest returned warned =>
    refine .working (t := t) (congrArg (· + 1) attempts) cell rfl ?_ ?_ returned warned
    · dsimp only
      rw [move_phase_self, attempts]
      exact .connecting
    · exact resting_move (fun u _ => rest u) fun hne => (hne rfl).elim
  | working _ _ builder =>
    rw [free] at builder
    cases builder
  | published _ cell =>
    rw [empty] at cell
    cases cell

/-- A thread that makes a client makes the first one. -/
theorem Settling.making (hs : Settling config logger connector w s) (hp : (s.phase t).isMaking) :
    ∃ m n, s.attempts = 1 ∧ s.cell = none ∧ s.builder = some t ∧
      (s.phase t).Works config connector m n ∧ (∀ u ≠ t, (s.phase u).Resting) ∧ s.returned = [] ∧
      Warned config logger connector w s.world m n := by
  have hrest : ¬ (s.phase t).Resting := by
    rintro (h | h) <;> rw [h] at hp <;> cases hp
  cases hs with
  | unmade _ _ _ rest => exact absurd (rest t) hrest
  | @working t' m n attempts cell builder work rest returned warned =>
    obtain rfl : t = t' := by
      by_contra hne
      exact hrest (rest t hne)
    exact ⟨m, n, attempts, cell, builder, work, rest, returned, warned⟩
  | published _ _ _ rest =>
    rcases rest t with h | h
    · exact absurd h hrest
    · rw [h] at hp
      cases hp

/-- The one thread that makes the client goes on while the others rest. -/
theorem Settling.advance (hs : Settling config logger connector w s) (phase : s.phase t = p)
    (hp : p.isMaking) :
    ∃ m n, p.Works config connector m n ∧ Warned config logger connector w s.world m n ∧
      ∀ {p' : Phase} {w' : World} {m' n' : Nat}, p'.Works config connector m' n' →
        Warned config logger connector w w' m' n' →
        Settling config logger connector w { s.move t p' with world := w' } := by
  subst phase
  obtain ⟨m, n, attempts, cell, builder, work, rest, returned, warned⟩ := hs.making hp
  refine ⟨m, n, work, warned, fun {p' w' m' n'} work' warned' => ?_⟩
  refine .working (t := t) attempts cell builder ?_ (resting_move rest fun hne => (hne rfl).elim)
    returned warned'
  dsimp only
  rw [move_phase_self]
  exact work'

theorem Settling.connect (hs : Settling config logger connector w s) {b : Backend}
    (phase : s.phase t = .connecting n) (made : connector n config = .ok b) :
    Settling config logger connector w { s.move t (.built ⟨n, .live b⟩) with
      world := s.world.report (readyEvent config) } := by
  obtain ⟨m, k, work, warned, goesOn⟩ := hs.advance phase rfl
  cases work
  exact goesOn (Phase.works_of_ok made) (warned.report _)

theorem Settling.warn (hs : Settling config logger connector w s) {e : CacheError}
    (phase : s.phase t = .connecting n) (failed : connector n config = .error e) :
    Settling config logger connector w { s.move t (.falling n) with
      world := s.world.log logger .warn fallbackWarning
        (Members.ofList [("error", .string e.message)]) } := by
  obtain ⟨m, k, work, warned, goesOn⟩ := hs.advance phase rfl
  cases work
  exact goesOn (.falling failed) (warned.log failed)

theorem Settling.count (hs : Settling config logger connector w s)
    (phase : s.phase t = .falling n) :
    Settling config logger connector w { s.move t (.built ⟨n, .fallback⟩) with
      world := s.world.count .fallbacks } := by
  obtain ⟨m, k, work, warned, goesOn⟩ := hs.advance phase rfl
  cases work with
  | falling failed => exact goesOn (Phase.works_of_error failed) warned.count

/-- When the client is put into the cell nobody has one yet. -/
theorem Settling.publish (hs : Settling config logger connector w s)
    (phase : s.phase t = .built h) :
    Settling config logger connector w { s.move t .waiting with
      cell := some h
      builder := none } := by
  obtain ⟨m, k, attempts, cell, builder, work, rest, returned, warned⟩ :=
    hs.making (t := t) (by rw [phase]; rfl)
  rw [phase] at work
  cases work
  refine .published attempts rfl rfl (fun u => .inl ?_) ?_ warned
  · by_cases hu : u = t
    · rw [hu, move_phase_self]
      exact .inr rfl
    · rw [move_phase_of_ne _ _ _ hu]
      exact rest u hu
  · intro r hr
    rw [move_returned, returned] at hr
    cases hr

theorem Settling.leave (hs : Settling config logger connector w s)
    (phase : s.phase t = .leaving h) :
    Settling config logger connector w { s.move t .idle with
      returned := s.returned ++ [(t, h)] } := by
  have hrest : ¬ (s.phase t).Resting := by
    rintro (h | h) <;> rw [h] at phase <;> cases phase
  cases hs with
  | unmade _ _ _ rest => exact absurd (rest t) hrest
  | @working t' _ _ _ _ _ work rest =>
    obtain rfl : t = t' := by
      by_contra hne
      exact hrest (rest t hne)
    rw [phase] at work
    cases work
  | published attempts cell builder rest returned warned =>
    have hh : h = settled config connector := by
      have hleaving := (rest t).resolve_left hrest
      rw [phase] at hleaving
      exact Phase.leaving.inj hleaving
    refine .published attempts cell builder ?_ ?_ warned
    · exact forall_move (P := fun _ q => q.Resting ∨ q = .leaving _) rest (.inl (.inl rfl))
    · intro r hr
      rcases List.mem_append.mp hr with hr | hr
      · exact returned r hr
      · obtain rfl := List.mem_singleton.mp hr
        exact hh

theorem Settling.meanwhile (hs : Settling config logger connector w s)
    (later : s.world.Later w') : Settling config logger connector w { s with world := w' } := by
  cases hs with
  | unmade attempts cell builder rest returned warned =>
    exact .unmade attempts cell builder rest returned (warned.later later)
  | working attempts cell builder work rest returned warned =>
    exact .working attempts cell builder work rest returned (warned.later later)
  | published attempts cell builder rest returned warned =>
    exact .published attempts cell builder rest returned (warned.later later)

theorem Settling.step (hs : Settling config logger connector w s)
    (h : Step config logger connector s s') : Settling config logger connector w s' := by
  cases h with
  | enter phase empty => exact hs.enter phase empty
  | find _ full => exact hs.find full
  | start _ empty free => exact hs.start empty free
  | connect phase made => exact hs.connect phase made
  | warn phase failed => exact hs.warn phase failed
  | count phase => exact hs.count phase
  | publish phase => exact hs.publish phase
  | leave phase => exact hs.leave phase
  | meanwhile later => exact hs.meanwhile later

/-- Threads that have only rested so far settle on the first client whatever they do. -/
theorem Settling.reaches (hs : Settling config logger connector w s)
    (h : Reaches config logger connector s s') : Settling config logger connector w s' := by
  induction h with
  | refl => exact hs
  | tail _ hstep ih => exact ih.step hstep

theorem settling_start (w : World) : Settling config logger connector w { world := w } :=
  .unmade rfl rfl rfl (fun _ => .inl rfl) rfl (.refl w)

/-! ### Nobody waits forever -/

section Progress

variable (config logger connector)

/-- What becomes of a thread that has the client made, after so many attempts, and is not
interrupted. -/
structure Filled (s : Race) (t attempts : Nat) (h : Handle) (w : World) (s' : Race) : Prop where
  reaches : Reaches config logger connector s s'
  attempts : s'.attempts = attempts
  cell : s'.cell = some h
  phase : s'.phase t = .waiting
  world : s'.world = w
  returned : s'.returned = s.returned

variable {s₁ : Race} {k : Nat}

variable {config logger connector} in
theorem Filled.head (hf : Filled config logger connector s₁ t k h w s')
    (hstep : Step config logger connector s s₁) (returned : s₁.returned = s.returned) :
    Filled config logger connector s t k h w s' :=
  ⟨.head hstep hf.reaches, hf.attempts, hf.cell, hf.phase, hf.world, hf.returned.trans returned⟩

theorem filled_of_built (phase : s.phase t = .built h) :
    ∃ s', Filled config logger connector s t s.attempts h s.world s' :=
  ⟨_, .single (.publish phase), rfl, rfl, move_phase_self .., rfl, rfl⟩

theorem filled_of_falling (phase : s.phase t = .falling n) :
    ∃ s', Filled config logger connector s t s.attempts ⟨n, .fallback⟩ (s.world.count .fallbacks)
      s' := by
  obtain ⟨s', hs'⟩ := filled_of_built config logger connector
    (s := { s.move t (.built ⟨n, .fallback⟩) with world := s.world.count .fallbacks })
    (move_phase_self ..)
  exact ⟨s', hs'.head (.count phase) rfl⟩

/-- A client is made as a provider makes it. -/
theorem filled_of_connecting (phase : s.phase t = .connecting n) :
    let made := build ⟨config, logger, connector, n, none⟩ s.world
    ∃ s', Filled config logger connector s t s.attempts ⟨n, made.1⟩ made.2 s' := by
  cases h : connector n config with
  | ok b =>
    simp only [build, h]
    obtain ⟨s', hs'⟩ := filled_of_built config logger connector
      (s := { s.move t (.built ⟨n, .live b⟩) with world := s.world.report (readyEvent config) })
      (move_phase_self ..)
    exact ⟨s', hs'.head (.connect phase h) rfl⟩
  | error e =>
    simp only [build, h]
    obtain ⟨s', hs'⟩ := filled_of_falling config logger connector
      (s := { s.move t (.falling n) with
        world := s.world.log logger .warn fallbackWarning
          (Members.ofList [("error", .string e.message)]) })
      (move_phase_self ..)
    exact ⟨s', hs'.head (.warn phase h) rfl⟩

theorem filled_of_waiting (phase : s.phase t = .waiting) (empty : s.cell = none)
    (free : s.builder = none) :
    let made := build ⟨config, logger, connector, s.attempts, none⟩ s.world
    ∃ s', Filled config logger connector s t (s.attempts + 1) ⟨s.attempts, made.1⟩ made.2 s' := by
  intro made
  obtain ⟨s', hs'⟩ := filled_of_connecting config logger connector
    (s := { s.move t (.connecting s.attempts) with
      attempts := s.attempts + 1
      builder := some t })
    (move_phase_self ..)
  exact ⟨s', hs'.head (.start phase empty free) rfl⟩

theorem filled_of_idle (phase : s.phase t = .idle) (empty : s.cell = none)
    (free : s.builder = none) :
    let made := build ⟨config, logger, connector, s.attempts, none⟩ s.world
    ∃ s', Filled config logger connector s t (s.attempts + 1) ⟨s.attempts, made.1⟩ made.2 s' := by
  intro made
  obtain ⟨s', hs'⟩ := filled_of_waiting config logger connector (s := s.move t .waiting)
    (move_phase_self ..) empty free
  exact ⟨s', hs'.head (.enter phase empty) rfl⟩

variable {config logger connector} in
/-- The client can be made at any time, by the thread that is about to or else by any thread. -/
theorem Settling.fills (hs : Settling config logger connector w s) :
    ∃ s' h, Reaches config logger connector s s' ∧ s'.cell = some h := by
  cases hs with
  | unmade _ cell builder rest =>
    rcases rest 0 with phase | phase
    · obtain ⟨s', hs'⟩ := filled_of_idle config logger connector phase cell builder
      exact ⟨s', _, hs'.reaches, hs'.cell⟩
    · obtain ⟨s', hs'⟩ := filled_of_waiting config logger connector phase cell builder
      exact ⟨s', _, hs'.reaches, hs'.cell⟩
  | @working t _ _ _ _ _ work =>
    generalize phase : s.phase t = p at work
    cases work with
    | connecting =>
      obtain ⟨s', hs'⟩ := filled_of_connecting config logger connector phase
      exact ⟨s', _, hs'.reaches, hs'.cell⟩
    | falling =>
      obtain ⟨s', hs'⟩ := filled_of_falling config logger connector phase
      exact ⟨s', _, hs'.reaches, hs'.cell⟩
    | built =>
      obtain ⟨s', hs'⟩ := filled_of_built config logger connector phase
      exact ⟨s', _, hs'.reaches, hs'.cell⟩
  | published _ cell => exact ⟨s, _, .refl, cell⟩

/-- Once there is a client every thread can have it. -/
theorem returns_of_resting (full : s.cell = some h) (phase : (s.phase t).Resting) :
    ∃ s', Reaches config logger connector s s' ∧ s'.attempts = s.attempts ∧ s'.cell = s.cell ∧
      s'.world = s.world ∧ s'.returned = s.returned ++ [(t, h)] :=
  ⟨_, .head (.find phase full) (.single (.leave (move_phase_self ..))), rfl, rfl, rfl, rfl⟩

variable {config logger connector} in
theorem Settling.returns (hs : Settling config logger connector w s) (t : Nat) :
    ∃ s' h, Reaches config logger connector s s' ∧ (t, h) ∈ s'.returned := by
  obtain ⟨s₁, h, hreaches, full⟩ := hs.fills
  cases hs.reaches hreaches with
  | unmade _ cell =>
    rw [full] at cell
    cases cell
  | working _ cell =>
    rw [full] at cell
    cases cell
  | published _ _ _ rest =>
    rcases rest t with phase | phase
    · obtain ⟨s', hreturns, -, -, -, hreturned⟩ :=
        returns_of_resting config logger connector full phase
      refine ⟨s', h, hreaches.trans hreturns, ?_⟩
      rw [hreturned]
      exact List.mem_append_right _ (List.mem_singleton_self _)
    · refine ⟨_, settled config connector, hreaches.tail (.leave phase), ?_⟩
      exact List.mem_append_right _ (List.mem_singleton_self _)

/-- A thread that nobody interrupts does what a provider does on its own. -/
theorem returns_alone (phase : s.phase t = .idle) (free : s.builder = none) :
    ∃ s' h, Reaches config logger connector s s' ∧ s'.returned = s.returned ++ [(t, h)] ∧
      (h.client, s'.provider config logger connector, s'.world) =
        (s.provider config logger connector).obtain s.world := by
  cases hcell : s.cell with
  | some h =>
    obtain ⟨s', hreaches, hattempts, hcell', hworld, hreturned⟩ :=
      returns_of_resting config logger connector hcell
        (.inl phase)
    refine ⟨s', h, hreaches, hreturned, ?_⟩
    simp only [provider, obtain, hattempts, hcell', hcell, hworld, Option.map_some]
  | none =>
    obtain ⟨s₁, hs₁⟩ := filled_of_idle config logger connector phase hcell free
    obtain ⟨s', hreaches, hattempts, hcell', hworld, hreturned⟩ :=
      returns_of_resting config logger connector hs₁.cell
        (.inr hs₁.phase)
    rw [hs₁.returned] at hreturned
    refine ⟨s', _, hs₁.reaches.trans hreaches, hreturned, ?_⟩
    simp only [provider, obtain, hattempts, hcell', hcell, hworld, hs₁.cell, hs₁.attempts,
      hs₁.world, Option.map_some, Option.map_none]

end Progress

/-! ### Races that end -/

theorem failures_eq (config : CacheConfig) (connector : Connector) :
    failures config connector = if (choice config connector).enabled then 0 else 1 := by
  rw [failures, choice]
  split <;> rfl

theorem failures_le_one (config : CacheConfig) (connector : Connector) :
    failures config connector ≤ 1 := by
  rw [failures_eq]
  split <;> decide

theorem Phase.Works.le_one (h : p.Works config connector m n) : m ≤ 1 ∧ n ≤ 1 := by
  cases h with
  | connecting => decide
  | falling => decide
  | built => exact ⟨failures_le_one config connector, failures_le_one config connector⟩

theorem Settling.le_one (hs : Settling config logger connector w s) :
    s.attempts ≤ 1 ∧ ∃ m n, m ≤ 1 ∧ n ≤ 1 ∧ Warned config logger connector w s.world m n := by
  cases hs with
  | unmade attempts _ _ _ _ warned => exact ⟨by omega, 0, 0, by decide, by decide, warned⟩
  | @working t m n attempts _ _ work _ _ warned =>
    obtain ⟨hm, hn⟩ := work.le_one
    exact ⟨by omega, m, n, hm, hn, warned⟩
  | published attempts _ _ _ _ warned =>
    have hle := failures_le_one config connector
    exact ⟨by omega, _, _, hle, hle, warned⟩

/-- Where a client was returned it is the first one, and all of its making is known. -/
theorem Settling.warned_of_returned (hs : Settling config logger connector w s) {r : Nat × Handle}
    (hr : r ∈ s.returned) :
    r.2 = settled config connector ∧
      Warned config logger connector w s.world (failures config connector)
        (failures config connector) := by
  cases hs with
  | unmade _ _ _ _ returned =>
    rw [returned] at hr
    cases hr
  | working _ _ _ _ _ returned =>
    rw [returned] at hr
    cases hr
  | published _ _ _ _ returned warned => exact ⟨returned r hr, warned⟩

/-- However the steps of threads interleave that share a new provider, the connector is called at
most once, and whoever gets a client gets the one instance of that call. At most one warning and one
count of a fallback are there at any time: both of them where someone has got the fallback, and
neither where someone has got a live client. Any thread can still get one. -/
theorem race_settles (h : Reaches config logger connector { world := w } s) :
    s.attempts ≤ 1 ∧
    (∀ r ∈ s.returned, r.2 = ⟨0, choice config connector⟩) ∧
    (∃ warnings fallbacks, warnings ≤ 1 ∧ fallbacks ≤ 1 ∧
      Warned config logger connector w s.world warnings fallbacks) ∧
    (∀ r ∈ s.returned, r.2.client = .fallback →
      Warned config logger connector w s.world 1 1) ∧
    (∀ r ∈ s.returned, ∀ b, r.2.client = .live b →
      Warned config logger connector w s.world 0 0) ∧
    ∀ t, ∃ s' handle, Reaches config logger connector s s' ∧ (t, handle) ∈ s'.returned := by
  have hs : Settling config logger connector w s := (settling_start w).reaches h
  obtain ⟨hattempts, hbound⟩ := hs.le_one
  refine ⟨hattempts, fun r hr => (hs.warned_of_returned hr).1, hbound, ?_, ?_, hs.returns⟩
  · intro r hr hclient
    obtain ⟨hsettled, hwarned⟩ := hs.warned_of_returned hr
    have hchoice : choice config connector = .fallback := by
      rw [hsettled] at hclient
      exact hclient
    rw [failures_eq, hchoice] at hwarned
    exact hwarned
  · intro r hr b hclient
    obtain ⟨hsettled, hwarned⟩ := hs.warned_of_returned hr
    have hchoice : choice config connector = .live b := by
      rw [hsettled] at hclient
      exact hclient
    rw [failures_eq, hchoice] at hwarned
    exact hwarned

/-- Two threads find no client. The attempt of the first one fails, and the second one, for whom it
would succeed, takes the fallback and returns it before the first one does. -/
theorem race_settles_fallback :
    let connector : Connector := fun attempt _ =>
      if attempt = 0 then .error .missingToken else .ok .shelf
    ∃ s, Reaches {} .memory connector { world := {} } s ∧
      s.returned = [(1, ⟨0, .fallback⟩), (0, ⟨0, .fallback⟩)] ∧
      (s.world.journal.recordsAt .warn).length = 1 ∧ s.world.metrics.total .fallbacks = 1 := by
  intro connector
  have hreaches : Reaches {} .memory connector { world := {} } _ :=
    .tail (.tail (.tail (.tail (.tail (.tail (.tail (.tail (.tail (.tail .refl
      (.enter (t := 0) rfl rfl)) (.enter (t := 1) rfl rfl)) (.start (t := 0) rfl rfl rfl))
      (.warn (t := 0) (n := 0) rfl rfl)) (.count (t := 0) rfl)) (.publish (t := 0) rfl))
      (.find (t := 1) (.inr rfl) rfl)) (.leave (t := 1) rfl)) (.find (t := 0) (.inr rfl) rfl))
      (.leave (t := 0) rfl)
  obtain ⟨-, -, -, hfallback, -⟩ := race_settles hreaches
  have hwarned := hfallback (0, ⟨0, .fallback⟩) (List.mem_cons_of_mem _ List.mem_cons_self) rfl
  exact ⟨_, hreaches, rfl, hwarned.kept rfl, hwarned.fallbacks⟩

end Race

end Stagehand.CacheProvider
