import Stagehand.Cache.Provider

/-!
# One client for everyone
A provider in use is asked for its client any number of times, and the clients that it has handed
out carry out commands that may fail. What it decided when it was first asked stays, and is warned
of at most once.
-/

namespace Stagehand

/-! ### What commands do -/

namespace World

/-- The worlds that come after a world while nobody asks a provider for its client. Commands have
exchanges, use the shelf, are counted and report their failures; the network and the time may change
by themselves. -/
inductive Later (w : World) : World → Prop
  | refl : Later w w
  | exchange {w' : World} (h : Later w w') (network : Network) (contacts : List Contact) :
    Later w { w' with network, contacts }
  | shelve {w' : World} (h : Later w w') (shelf : Shelf) : Later w { w' with shelf }
  | count {w' : World} (h : Later w w') {s : Series} (hs : s ≠ .fallbacks) : Later w (w'.count s)
  | failure {w' : World} (h : Later w w') (command : String) (e : CacheError) :
    Later w (w'.report (RemoteCache.failureEvent command e))
  | elapse {w' : World} (h : Later w w') (network : Network) (now : String) :
    Later w { w' with network, now }

theorem Later.trans {w w' w'' : World} (h : w.Later w') (h' : w'.Later w'') : w.Later w'' := by
  induction h' with
  | refl => exact h
  | exchange _ network contacts ih => exact ih.exchange network contacts
  | shelve _ shelf ih => exact ih.shelve shelf
  | count _ hs ih => exact ih.count hs
  | failure _ command e ih => exact ih.failure command e
  | elapse _ network now ih => exact ih.elapse network now

end World

theorem RemoteCache.later_send (r : RemoteCache) (c : CacheCommand) (w : World) :
    w.Later (r.send c w).2 := by
  simp only [send]
  split <;> exact .exchange .refl _ _

theorem RemoteCache.later_execute (r : RemoteCache) (c : CacheCommand) (w : World) :
    w.Later (r.execute c w).2 := by
  have h := ((r.later_send c w).count (s := .commands c.name) nofun).count
    (s := .commandTimes c.name) nofun
  simp only [execute]
  split
  · exact h
  · exact (h.count (s := .commandErrors c.name) nofun).failure _ _

theorem RemoteCache.later_perform (r : RemoteCache) (c : CacheCommand) (w : World) :
    w.Later (r.perform c w).2 := by
  have h := r.later_execute c w
  rw [perform]
  split
  · rename_i he
    rwa [he] at h
  · rename_i he
    rwa [he] at h

namespace CacheClient

theorem later_perform (client : CacheClient) (c : CacheCommand) (w : World) :
    w.Later (client.perform c w).2 := by
  cases client with
  | fallback => exact .refl
  | live b =>
    cases b with
    | remote r => exact r.later_perform c w
    | shelf => exact .shelve .refl _
    | other answer => exact .exchange .refl _ w.contacts

theorem later_getJson {α : Type} (client : CacheClient) (reader : Json.Reader α) (key : String)
    (w : World) : w.Later (client.getJson reader key w).2 := by
  have h := client.later_perform (.get key) w
  rw [getJson]
  split
  · rename_i hp
    rwa [hp] at h
  · rename_i hp
    rw [hp] at h
    split <;> exact h
  · rename_i hp
    rwa [hp] at h

theorem later_setSerialized (client : CacheClient) (key : String)
    (serialized : Except Json.ReadError String) (expiry : Option Nat) (w : World) :
    w.Later (client.setSerialized key serialized expiry w).2 := by
  cases serialized with
  | error e => exact .refl
  | ok text => exact client.later_perform (.set key text expiry) w

end CacheClient

/-! ### What commands leave alone -/

namespace World

/-- How many warnings were handed on to sinks. -/
def warnings (w : World) : Nat := w.journal.emitted.countP fun r => r.severity = .warn

/-- What commands do not change of a world: the records, and the count of fallbacks. -/
structure Quiet (w w' : World) : Prop where
  emitted : w'.journal.emitted = w.journal.emitted
  records : w'.journal.records = w.journal.records
  fallbacks : w'.metrics.total .fallbacks = w.metrics.total .fallbacks

theorem total_count (w : World) (s t : Series) :
    (w.count s).metrics.total t = w.metrics.total t + if s = t then 1 else 0 := by
  rw [World.count, Metrics.increment, Metrics.total, List.count_cons, Metrics.total]
  simp only [beq_iff_eq]

/-- No command warns of anything or counts a fallback, whether or not it fails. -/
theorem Later.quiet {w w' : World} (h : w.Later w') : w.Quiet w' := by
  induction h with
  | refl => exact ⟨rfl, rfl, rfl⟩
  | exchange _ _ _ ih => exact ⟨ih.emitted, ih.records, ih.fallbacks⟩
  | shelve _ _ ih => exact ⟨ih.emitted, ih.records, ih.fallbacks⟩
  | count _ hs ih =>
    refine ⟨ih.emitted, ih.records, ?_⟩
    rw [total_count, if_neg hs]
    exact ih.fallbacks
  | failure _ _ _ ih => exact ⟨ih.emitted, ih.records, ih.fallbacks⟩
  | elapse _ _ _ ih => exact ⟨ih.emitted, ih.records, ih.fallbacks⟩

end World

/-! ### Making the client -/

namespace CacheProvider

/-- The client that a provider decides for, by the first outcome of its connector. -/
def choice (config : CacheConfig) (connector : Connector) : CacheClient :=
  match connector 0 config with
  | .ok b => .live b
  | .error _ => .fallback

/-- How many fallbacks a provider decides for. -/
def failures (config : CacheConfig) (connector : Connector) : Nat :=
  match connector 0 config with
  | .ok _ => 0
  | .error _ => 1

theorem enabled_choice (config : CacheConfig) (connector : Connector) :
    (choice config connector).enabled = true ↔ ∃ b, connector 0 config = .ok b := by
  rw [choice]
  constructor
  · intro h
    split at h
    · rename_i b hb
      exact ⟨b, hb⟩
    · cases h
  · rintro ⟨b, hb⟩
    rw [hb]
    rfl

/-- Every sink is handed the record, whatever it does with it. -/
theorem emitted_emit (logger : Logger) (j : Journal) (r : Record) :
    (logger.emit j r).emitted = j.emitted ++ [r] := by
  cases logger with
  | events => rfl
  | memory => rfl
  | other sink =>
    have h (es : List Event) (j : Journal) : (es.foldl Journal.report j).emitted = j.emitted := by
      induction es generalizing j with
      | nil => rfl
      | cons e es ih => exact ih (j.report e)
    exact h _ _

theorem recordsAt_emit (j : Journal) (r : Record) :
    ((Logger.memory.emit j r).recordsAt r.severity).length =
      (j.recordsAt r.severity).length + 1 := by
  rw [Journal.recordsAt, Journal.recordsAt, Logger.emit, Journal.keep, Journal.note,
    List.filter_append, List.length_append]
  simp

theorem warnings_log (w : World) (logger : Logger) (message : String) (context : LogContext) :
    (w.log logger .warn message context).warnings = w.warnings + 1 := by
  rw [World.warnings, World.log, Logger.log, emitted_emit, List.countP_append]
  rfl

/-- A client is made with one warning and one count for a fallback, and without them otherwise. -/
theorem build_spec (config : CacheConfig) (logger : Logger) (connector : Connector) (w : World) :
    let made := build ⟨config, logger, connector, 0, none⟩ w
    made.1 = choice config connector ∧
    made.2.warnings = w.warnings + failures config connector ∧
    made.2.metrics.total .fallbacks = w.metrics.total .fallbacks + failures config connector ∧
    (logger = .memory → (made.2.journal.recordsAt .warn).length =
      (w.journal.recordsAt .warn).length + failures config connector) := by
  cases h : connector 0 config with
  | ok b =>
    simp only [build, choice, failures, h]
    exact ⟨trivial, rfl, rfl, fun _ => rfl⟩
  | error e =>
    simp only [build, choice, failures, h]
    refine ⟨trivial, ?_, ?_, ?_⟩
    · exact warnings_log w logger fallbackWarning _
    · exact World.total_count _ _ _
    · rintro rfl
      exact recordsAt_emit w.journal _

/-! ### A provider in use -/

/-- A provider in use: the world around it, and the clients that it has handed out, in their
order. -/
structure Use where
  provider : CacheProvider
  world : World
  handles : List CacheClient

/-- What can be done with a provider, and with the clients that it has handed out, which are given
by their places. Between two steps the network and the time may change. -/
inductive Step
  | client
  | isInitialized
  | description
  | enabled (i : Nat)
  | perform (i : Nat) (c : CacheCommand)
  | getJson {α : Type} (i : Nat) (reader : Json.Reader α) (key : String)
  | setJson (i : Nat) (key : String) (serialized : Except Json.ReadError String)
      (expiry : Option Nat)
  | elapse (network : Network) (now : String)

/-- What a step shows. -/
inductive Answer
  | client (client : CacheClient)
  | flag (b : Bool)
  | text (s : String)
  | result (r : Except CacheError CacheAnswer)
  | found {α : Type} (r : Except CacheError (Option α))
  | nothing

/-- Whether a step asks the provider for its client. -/
def Step.asks : Step → Bool
  | client => true
  | _ => false

namespace Use

/-- Does something with a client that was handed out. -/
def withHandle (u : Use) (i : Nat) (act : CacheClient → World → Answer × World) : Answer × Use :=
  match u.handles[i]? with
  | none => (.nothing, u)
  | some client =>
    let (answer, w) := act client u.world
    (answer, { u with world := w })

/-- One step. -/
def step (u : Use) : Step → Answer × Use
  | .client =>
    let (client, p, w) := u.provider.obtain u.world
    (.client client, ⟨p, w, u.handles ++ [client]⟩)
  | .isInitialized => (.flag u.provider.isInitialized, u)
  | .description => (.text u.provider.description, u)
  | .enabled i => u.withHandle i fun client w => (.flag client.enabled, w)
  | .perform i c => u.withHandle i fun client w =>
    let (r, w) := client.perform c w
    (.result r, w)
  | .getJson i reader key => u.withHandle i fun client w =>
    let (r, w) := client.getJson reader key w
    (.found r, w)
  | .setJson i key serialized expiry => u.withHandle i fun client w =>
    let (r, w) := client.setSerialized key serialized expiry w
    (.result r, w)
  | .elapse network now => (.nothing, { u with world := { u.world with network, now } })

/-- Any number of steps. -/
def run (u : Use) (steps : List Step) : Use := steps.foldl (fun u s => (u.step s).2) u

theorem run_append (u : Use) (steps more : List Step) :
    u.run (steps ++ more) = (u.run steps).run more :=
  List.foldl_append

theorem later_withHandle (u : Use) (i : Nat) {act : CacheClient → World → Answer × World}
    (hact : ∀ client, u.world.Later (act client u.world).2) :
    ∃ w, (u.withHandle i act).2 = { u with world := w } ∧ u.world.Later w := by
  rw [withHandle]
  split
  · exact ⟨u.world, rfl, .refl⟩
  · exact ⟨_, rfl, hact _⟩

/-- A step that does not ask for the client leaves the provider and the handles alone. -/
theorem later_step (u : Use) {s : Step} (hs : s.asks = false) :
    ∃ w, (u.step s).2 = { u with world := w } ∧ u.world.Later w := by
  cases s with
  | client => cases hs
  | isInitialized => exact ⟨u.world, rfl, .refl⟩
  | description => exact ⟨u.world, rfl, .refl⟩
  | enabled i => exact u.later_withHandle i fun _ => .refl
  | perform i c => exact u.later_withHandle i fun client => client.later_perform c u.world
  | getJson i reader key =>
    exact u.later_withHandle i fun client => client.later_getJson reader key u.world
  | setJson i key serialized expiry =>
    exact u.later_withHandle i fun client =>
      client.later_setSerialized key serialized expiry u.world
  | elapse network now => exact ⟨_, rfl, .elapse .refl network now⟩

end Use

/-- What holds of a provider in use after its client was asked for `n` times. -/
structure Decided (config : CacheConfig) (logger : Logger) (connector : Connector) (w : World)
    (n : Nat) (u : Use) : Prop where
  provider : u.provider = ⟨config, logger, connector, if n = 0 then 0 else 1,
    if n = 0 then none else some (choice config connector)⟩
  handles : u.handles = List.replicate n (choice config connector)
  warnings : u.world.warnings =
    w.warnings + if n = 0 then 0 else failures config connector
  fallbacks : u.world.metrics.total .fallbacks =
    w.metrics.total .fallbacks + if n = 0 then 0 else failures config connector
  kept (h : logger = .memory) : (u.world.journal.recordsAt .warn).length =
    (w.journal.recordsAt .warn).length + if n = 0 then 0 else failures config connector

section Run

variable {config : CacheConfig} {logger : Logger} {connector : Connector} {w : World} {n : Nat}
  {u : Use}

theorem Decided.of_quiet (h : Decided config logger connector w n u) {w' : World}
    (hw : u.world.Quiet w') : Decided config logger connector w n { u with world := w' } where
  provider := h.provider
  handles := h.handles
  warnings := by
    rw [← h.warnings, World.warnings, World.warnings, hw.emitted]
  fallbacks := hw.fallbacks.trans h.fallbacks
  kept hm := by
    rw [← h.kept hm, Journal.recordsAt, Journal.recordsAt, hw.records]

theorem Decided.isInitialized_eq (h : Decided config logger connector w n u) :
    u.provider.isInitialized = decide (n ≠ 0) := by
  rw [h.provider]
  cases n <;> rfl

/-- The first time it is asked a provider decides, and later it only repeats itself. -/
theorem Decided.client (h : Decided config logger connector w n u) :
    Decided config logger connector w (n + 1) (u.step .client).2 ∧
      (u.step .client).1 = .client (choice config connector) := by
  obtain ⟨p, w', handles⟩ := u
  have hp : p = _ := h.provider
  have hhandles : handles = List.replicate n (choice config connector) := h.handles
  subst hp hhandles
  cases n with
  | zero =>
    obtain ⟨hchoice, hwarnings, hfallbacks, hkept⟩ := build_spec config logger connector w'
    have hw : w'.warnings = w.warnings := h.warnings
    have hf : w'.metrics.total .fallbacks = w.metrics.total .fallbacks := h.fallbacks
    simp only [Use.step, obtain, if_pos, hchoice]
    refine ⟨⟨rfl, rfl, ?_, ?_, fun hm => ?_⟩, trivial⟩
    · rw [hwarnings, hw]
      rfl
    · rw [hfallbacks, hf]
      rfl
    · have hr : (w'.journal.recordsAt .warn).length = (w.journal.recordsAt .warn).length :=
        h.kept hm
      rw [hkept hm, hr]
      rfl
  | succ n =>
    refine ⟨⟨rfl, ?_, h.warnings, h.fallbacks, h.kept⟩, rfl⟩
    rw [List.replicate_succ' (n := n + 1)]
    rfl

/-- One step asks for the client or leaves the decision alone. -/
theorem Decided.step (h : Decided config logger connector w n u) (s : Step) :
    Decided config logger connector w (n + if s.asks then 1 else 0) (u.step s).2 := by
  cases hs : s.asks with
  | true =>
    cases s <;> cases hs
    exact h.client.1
  | false =>
    obtain ⟨w', hstep, hlater⟩ := u.later_step hs
    rw [hstep]
    exact h.of_quiet hlater.quiet

/-- Any steps count as often as they ask for the client. -/
theorem Decided.run (h : Decided config logger connector w n u) (steps : List Step) :
    Decided config logger connector w (n + steps.countP Step.asks) (u.run steps) := by
  induction steps generalizing n u with
  | nil => exact h
  | cons s steps ih =>
    have hcount : n + (s :: steps).countP Step.asks =
        (n + if s.asks then 1 else 0) + steps.countP Step.asks := by
      rw [List.countP_cons]
      omega
    rw [hcount]
    exact ih (h.step s)

end Run

/-- A provider that nobody has used yet. -/
def fresh (config : CacheConfig) (logger : Logger) (connector : Connector) (w : World) : Use :=
  ⟨⟨config, logger, connector, 0, none⟩, w, []⟩

theorem decided_fresh (config : CacheConfig) (logger : Logger) (connector : Connector) (w : World) :
    Decided config logger connector w 0 (fresh config logger connector w) :=
  ⟨rfl, rfl, rfl, rfl, fun _ => rfl⟩

/-- After any steps the connector was called once if the client was asked for and never otherwise.
All the clients that were handed out are the one that the first outcome decided, and a fallback
was warned of and counted once. -/
theorem run_fresh (config : CacheConfig) (logger : Logger) (connector : Connector) (w : World)
    (steps : List Step) :
    let u := (fresh config logger connector w).run steps
    let n := steps.countP Step.asks
    let client := choice config connector
    let fallbacks := if n = 0 then 0 else failures config connector
    u.provider.attempts = (if n = 0 then 0 else 1) ∧
    (u.step .isInitialized).1 = .flag (decide (n ≠ 0)) ∧
    u.provider.client = (if n = 0 then none else some client) ∧
    u.handles = List.replicate n client ∧
    (u.step .client).1 = .client client ∧
    (client.enabled = true ↔ ∃ b, connector 0 config = .ok b) ∧
    u.world.warnings = w.warnings + fallbacks ∧
    u.world.metrics.total .fallbacks = w.metrics.total .fallbacks + fallbacks ∧
    (logger = .memory → (u.world.journal.recordsAt .warn).length =
      (w.journal.recordsAt .warn).length + fallbacks) := by
  intro u n client fallbacks
  have h : Decided config logger connector w n u := by
    have hrun := (decided_fresh config logger connector w).run steps
    rwa [Nat.zero_add] at hrun
  refine ⟨?_, ?_, ?_, h.handles, h.client.2, enabled_choice config connector, h.warnings,
    h.fallbacks, h.kept⟩
  · rw [h.provider]
  · exact congrArg Answer.flag h.isInitialized_eq
  · rw [h.provider]

/-- A fallback is not replaced where a later attempt would succeed. -/
theorem run_fresh_fallback :
    let connector : Connector := fun attempt _ =>
      if attempt = 0 then .error .missingToken else .ok .shelf
    let u := (fresh {} .memory connector {}).run
      [.isInitialized, .client, .perform 0 (.get "k"), .description, .client]
    u.provider.attempts = 1 ∧ u.handles = [.fallback, .fallback] ∧
      u.world.warnings = 1 ∧ u.world.metrics.total .fallbacks = 1 ∧
      (u.world.journal.recordsAt .warn).length = 1 := by
  intro connector u
  obtain ⟨hattempts, -, -, hhandles, -, -, hwarnings, hfallbacks, hkept⟩ :=
    run_fresh {} .memory connector {}
      [.isInitialized, .client, .perform 0 (.get "k"), .description, .client]
  exact ⟨hattempts, hhandles, hwarnings, hfallbacks, hkept rfl⟩

end CacheProvider

end Stagehand
