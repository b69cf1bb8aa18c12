import Stagehand.Proofs.Cache.Connect

/-!
# A client without a cache
A provider that could not make a backend hands out a client that keeps nothing. Whatever it is asked
to do, it answers in the one way of the operation, and nothing in the world is different afterwards.
All that ever shows of it is the warning and the count from when it was made.
-/

namespace Stagehand.CacheProvider

/-- What a step changes that does nothing: time may pass, and the network with it. -/
def Step.outside (w : World) : Step → World
  | .elapse network now => { w with network, now }
  | _ => w

namespace Use

/-- The answers of the fallback to whoever holds a client: they depend neither on what is asked for
nor on anything that was done before. -/
structure Inert (u : Use) (i : Nat) : Prop where
  get (key : String) : (u.step (.perform i (.get key))).1 = .result (.ok (.value none))
  set (key value : String) (expiry : Option Nat) :
    (u.step (.perform i (.set key value expiry))).1 = .result (.ok (.value none))
  increment (key : String) (amount : Int) :
    (u.step (.perform i (.increment key amount))).1 = .result (.ok (.number 0))
  ping : (u.step (.perform i .ping)).1 = .result (.ok (.word "noop"))
  getJson {α : Type} (reader : Json.Reader α) (key : String) :
    (u.step (.getJson i reader key)).1 = .found (.ok (none : Option α))
  setJson (key text : String) (expiry : Option Nat) :
    (u.step (.setJson i key (.ok text) expiry)).1 = .result (.ok (.value none))

/-- A provider in use that has decided for the fallback and handed it out `n` times. -/
structure Fallen (u : Use) (n : Nat) : Prop where
  client : u.provider.client = some .fallback
  handles : u.handles = List.replicate n .fallback

variable {u : Use} {n : Nat}

section WithHandle

variable {act : CacheClient → World → Answer × World} {i : Nat}

theorem Fallen.answer_withHandle (h : u.Fallen n) (hi : i < n) :
    (u.withHandle i act).1 = (act .fallback u.world).1 := by
  simp only [withHandle, h.handles, List.getElem?_replicate, if_pos hi]

theorem Fallen.withHandle_eq (h : u.Fallen n) (hact : (act .fallback u.world).2 = u.world) :
    (u.withHandle i act).2 = u := by
  rw [withHandle]
  split
  · rfl
  · rename_i client hget
    rw [h.handles] at hget
    obtain rfl : client = .fallback := List.eq_of_mem_replicate (List.mem_of_getElem? hget)
    dsimp only
    rw [hact]

end WithHandle

theorem Fallen.inert (h : u.Fallen n) {i : Nat} (hi : i < n) : u.Inert i where
  get _ := h.answer_withHandle hi
  set _ _ _ := h.answer_withHandle hi
  increment _ _ := h.answer_withHandle hi
  ping := h.answer_withHandle hi
  getJson _ _ := h.answer_withHandle hi
  setJson _ _ _ := h.answer_withHandle hi

/-- Where a value has no text, that is all that comes of keeping it. -/
theorem world_setSerialized_fallback (key : String) (serialized : Except Json.ReadError String)
    (expiry : Option Nat) (w : World) :
    (CacheClient.fallback.setSerialized key serialized expiry w).2 = w := by
  cases serialized with
  | error e => rfl
  | ok text => rfl

/-- A step that does not ask for the client only lets time pass. -/
theorem Fallen.step_eq (h : u.Fallen n) {s : Step} (hs : s.asks = false) :
    (u.step s).2 = { u with world := s.outside u.world } := by
  cases s with
  | client => cases hs
  | isInitialized => rfl
  | description => rfl
  | enabled i => exact h.withHandle_eq rfl
  | perform i c => exact h.withHandle_eq rfl
  | getJson i reader key => exact h.withHandle_eq rfl
  | setJson i key serialized expiry =>
    exact h.withHandle_eq (world_setSerialized_fallback key serialized expiry u.world)
  | elapse network now => rfl

/-- A step that asks for the client hands out the same one. -/
theorem Fallen.step_client (h : u.Fallen n) :
    (u.step .client).2 = { u with handles := u.handles ++ [.fallback] } := by
  simp only [step, obtain, h.client]

theorem Fallen.step (h : u.Fallen n) (s : Step) :
    (u.step s).2.Fallen (n + if s.asks then 1 else 0) ∧
      (u.step s).2.world = s.outside u.world := by
  cases hs : s.asks with
  | false =>
    rw [h.step_eq hs]
    exact ⟨⟨h.client, h.handles⟩, rfl⟩
  | true =>
    cases s <;> cases hs
    rw [h.step_client]
    refine ⟨⟨h.client, ?_⟩, rfl⟩
    rw [h.handles, if_pos rfl, List.replicate_succ']

theorem Fallen.run (h : u.Fallen n) (steps : List Step) :
    (u.run steps).Fallen (n + steps.countP Step.asks) ∧
      (u.run steps).world = steps.foldl Step.outside u.world := by
  induction steps generalizing u n with
  | nil => exact ⟨h, rfl⟩
  | cons s steps ih =>
    obtain ⟨hfallen, hworld⟩ := h.step s
    have hcount : n + (s :: steps).countP Step.asks =
        (n + if s.asks then 1 else 0) + steps.countP Step.asks := by
      rw [List.countP_cons]
      omega
    rw [hcount, List.foldl_cons, ← hworld]
    exact ih hfallen

end Use

/-! ### Providers that fall back -/

/-- A provider before its client is asked for, whose connector will fail. -/
structure Failing (p : CacheProvider) (e : CacheError) : Prop where
  client : p.client = none
  connector : p.connector p.attempts p.config = .error e

variable {p : CacheProvider} {e : CacheError}

/-- What the world is like once such a provider has been asked for its client: a warning has been
handed on, and a fallback counted. -/
def fallenWorld (p : CacheProvider) (e : CacheError) (w : World) : World :=
  (w.log p.logger .warn fallbackWarning (Members.ofList [("error", .string e.message)])).count
    .fallbacks

theorem Failing.step_client (h : p.Failing e) (w : World) :
    (Use.step ⟨p, w, []⟩ .client).2 =
      ⟨⟨p.config, p.logger, p.connector, p.attempts + 1, some .fallback⟩, p.fallenWorld e w,
        [.fallback]⟩ := by
  simp only [Use.step, obtain, build, h.client, h.connector]
  rfl

/-- A provider that fails to make a backend is done with the world once it has been asked for its
client: it has handed on one warning and counted one fallback, and whatever is asked of the client
afterwards is answered in one and the same way and changes nothing. -/
theorem run_inert (h : p.Failing e) (w : World) (steps : List Step) :
    let made := (Use.step ⟨p, w, []⟩ .client).2
    let u := made.run steps
    u.handles = List.replicate (1 + steps.countP Step.asks) .fallback ∧
    (∀ i < u.handles.length, u.Inert i) ∧
    u.world = steps.foldl Step.outside made.world ∧
    made.world.network = w.network ∧ made.world.contacts = w.contacts ∧
    made.world.shelf = w.shelf ∧ made.world.metrics = w.metrics.increment .fallbacks ∧
    ∃ record, made.world.journal.emitted = w.journal.emitted ++ [record] ∧
      IsWarning e record := by
  intro made u
  have hmade : made = _ := h.step_client w
  have hfallen : made.Fallen 1 := by
    rw [hmade]
    exact ⟨rfl, rfl⟩
  obtain ⟨hrun, hworld⟩ := hfallen.run steps
  refine ⟨hrun.handles, ?_, hworld, ?_⟩
  · intro i hi
    rw [hrun.handles, List.length_replicate] at hi
    exact hrun.inert hi
  · rw [hmade]
    exact ⟨rfl, rfl, rfl, rfl, _, emitted_emit p.logger w.journal _, isWarning_stamped e w.now⟩

/-- A provider without a URL. -/
def unset : CacheProvider := { config := {}, logger := .memory }

/-- Without a URL what was kept is not found again, and a reply that has been prepared waits. -/
theorem run_inert_unset :
    let w : World := { network := .peer [⟨⟨200⟩, none, [], .complete⟩] }
    let made := (Use.step ⟨unset, w, []⟩ .client).2
    let u := made.run [.perform 0 (.set "k" "v" (some 30)), .client]
    unset.Failing .missingUrl ∧ u.Inert 1 ∧ u.world.network = w.network ∧
      u.world.metrics.total .fallbacks = 1 := by
  intro w made u
  have hfailing : unset.Failing .missingUrl := ⟨rfl, rfl⟩
  obtain ⟨hhandles, hinert, hworld, hnetwork, -, -, hmetrics, -⟩ :=
    run_inert hfailing w [.perform 0 (.set "k" "v" (some 30)), .client]
  have hheld : 1 < u.handles.length := by
    rw [hhandles]
    decide
  have hsame : u.world = made.world := hworld
  refine ⟨hfailing, hinert 1 hheld, ?_, ?_⟩
  · rw [hsame]
    exact hnetwork
  · rw [hsame, hmetrics]
    rfl

end Stagehand.CacheProvider
