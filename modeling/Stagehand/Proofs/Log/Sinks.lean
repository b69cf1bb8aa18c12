import Mathlib.Data.List.Forall2
import Stagehand.Log.Logger

/-!
# Sinks
A run hands the records of its calls on in their order, one for each call. In memory they are kept
as they are; in the stream each of them comes as one event. What is read in between changes nothing.
-/

namespace Stagehand

/-- An event carries a record: it says what the record says, as gravely, and holds its text. -/
structure Event.Carries (e : Event) (r : Record) : Prop where
  target : e.target = "fanhub::log"
  severity : e.severity = r.severity
  message : e.message = r.message
  fields : e.fields = [("record", .words r.text)]

namespace Logger

/-! ### What is called for -/

namespace Step

/-- The message that a step logs and how grave it is, if the step logs one. -/
def logged? : Step → Option (Severity × Message)
  | log severity m => some (severity, m)
  | debug m => some (.debug, m)
  | info m => some (.info, m)
  | warn m => some (.warn, m)
  | error m => some (.error, m)
  | records => none
  | recordsAt _ => none

/-- The record of a step that logs a message. -/
def record? (s : Step) : Option Record :=
  s.logged?.map fun (severity, m) => .stamped severity m.text m.context m.time

/-- What a step reads from memory after other steps. -/
def reads (before : List Step) : Step → Option (List Record)
  | records => some (before.filterMap record?)
  | recordsAt severity => some ((before.filterMap record?).filter fun r => r.severity = severity)
  | _ => none

end Step

variable {logger : Logger} {j : Journal}

/-! ### Steps -/

/-- Whatever way a message is logged in, its record is handed on; and reading hands on nothing. -/
theorem step_fst (logger : Logger) (j : Journal) (s : Step) :
    (logger.step j s).1 = s.record?.toList.foldl logger.emit j := by
  cases s <;> rfl

/-- A run hands on the records of its calls, one after the other. -/
theorem run_fst (logger : Logger) (j : Journal) (steps : List Step) :
    (logger.run j steps).1 = (steps.filterMap Step.record?).foldl logger.emit j := by
  induction steps generalizing j with
  | nil => rfl
  | cons s steps ih =>
    rw [List.filterMap_cons]
    calc (logger.run j (s :: steps)).1
      _ = (logger.run (logger.step j s).1 steps).1 := rfl
      _ = (steps.filterMap Step.record?).foldl logger.emit
            (s.record?.toList.foldl logger.emit j) := by rw [ih, step_fst]
      _ = _ := by cases s.record? <;> rfl

/-- A run gives for each of its steps what that step reads after the steps before it. -/
theorem run_snd (logger : Logger) (j : Journal) (steps : List Step) (i : Nat) :
    (logger.run j steps).2[i]? =
      steps[i]?.map fun s => (logger.step (logger.run j (steps.take i)).1 s).2 := by
  induction steps generalizing j i with
  | nil => rfl
  | cons s steps ih =>
    cases i with
    | zero => rfl
    | succ i => exact ih (logger.step j s).1 i

/-! ### Sinks -/

theorem records_foldl_memory (rs : List Record) (j : Journal) :
    (rs.foldl memory.emit j).records = j.records ++ rs := by
  induction rs generalizing j with
  | nil => exact (List.append_nil _).symm
  | cons r rs ih => rw [List.foldl_cons, ih, emit, Journal.keep, Journal.note, List.append_assoc,
      List.singleton_append]

theorem events_foldl_memory (rs : List Record) (j : Journal) :
    (rs.foldl memory.emit j).events = j.events := by
  induction rs generalizing j with
  | nil => rfl
  | cons r rs ih => exact ih _

theorem events_foldl_events (rs : List Record) (j : Journal) :
    (rs.foldl events.emit j).events = j.events ++ rs.map Record.event := by
  induction rs generalizing j with
  | nil => exact (List.append_nil _).symm
  | cons r rs ih => rw [List.foldl_cons, ih, emit, Journal.report, Journal.note, List.append_assoc,
      List.map_cons, List.singleton_append]

theorem records_foldl_events (rs : List Record) (j : Journal) :
    (rs.foldl events.emit j).records = j.records := by
  induction rs generalizing j with
  | nil => rfl
  | cons r rs ih => exact ih _

theorem carries_event (r : Record) : r.event.Carries r := ⟨rfl, rfl, rfl, rfl⟩

/-! ### The four lists of memory -/

/-- The elements of some kinds, one kind after the other, are all the elements of these kinds. -/
theorem perm_flatMap_filter {α β : Type} [DecidableEq β] (kind : α → β) (xs : List α)
    {kinds : List β} (h : kinds.Nodup) :
    (kinds.flatMap fun k => xs.filter fun x => kind x = k).Perm
      (xs.filter fun x => kind x ∈ kinds) := by
  induction kinds with
  | nil => simp
  | cons k kinds ih =>
    obtain ⟨hk, hkinds⟩ := List.nodup_cons.mp h
    have hthis : xs.filter (fun x => kind x = k) =
        (xs.filter fun x => kind x ∈ k :: kinds).filter fun x => kind x = k := by
      rw [List.filter_filter]
      exact List.filter_congr fun x _ => by by_cases hx : kind x = k <;> simp [hx]
    have hothers : xs.filter (fun x => kind x ∈ kinds) =
        (xs.filter fun x => kind x ∈ k :: kinds).filter fun x => !decide (kind x = k) := by
      rw [List.filter_filter]
      exact List.filter_congr fun x _ => by by_cases hx : kind x = k <;> simp [hx, hk]
    rw [List.flatMap_cons]
    refine ((ih hkinds).append_left _).trans ?_
    rw [hthis, hothers]
    exact List.filter_append_perm _ _

theorem perm_recordsAt (j : Journal) : (Severity.all.flatMap j.recordsAt).Perm j.records := by
  have hall : (j.records.filter fun r => r.severity ∈ Severity.all) = j.records := by
    rw [List.filter_eq_self]
    intro r _
    cases r.severity <;> rfl
  have hperm := perm_flatMap_filter Record.severity j.records (show Severity.all.Nodup by decide)
  rwa [hall] at hperm

/-- Whatever is read from memory in between, the journal is that of the calls alone. -/
theorem run_calls (logger : Logger) (j : Journal) (steps : List Step) :
    (logger.run j (steps.filter fun s => s.record?.isSome)).1 = (logger.run j steps).1 := by
  rw [run_fst, run_fst, List.filterMap_filter]
  congr 1
  apply List.filterMap_congr
  intro s _
  cases h : s.record? <;> simp

/-- Through one sink and through the other, the records of the calls come in the order of the calls,
one for each: kept in memory, where each severity has its part of them in that order and no record
has a part in two; and carried by the events of the stream, one event for each record that memory
keeps. What is read from memory is what had been logged by then, and changes nothing. -/
theorem run_sinks (steps : List Step) :
    let calls := steps.filterMap Step.record?
    let kept := memory.run {} steps
    let reported := events.run {} steps
    (kept.1.records = calls ∧ kept.1.events = []) ∧
    (∀ severity, kept.1.recordsAt severity = calls.filter fun r => r.severity = severity) ∧
    (Severity.all.flatMap kept.1.recordsAt).Perm kept.1.records ∧
    (List.Forall₂ Event.Carries reported.1.events kept.1.records ∧ reported.1.records = []) ∧
    (∀ i, kept.2[i]? = steps[i]?.map fun s : Step => s.reads (steps.take i)) ∧
    ∀ logger j,
      (run logger j (steps.filter fun s => s.record?.isSome)).1 = (run logger j steps).1 := by
  intro calls kept reported
  have hrecords (steps : List Step) :
      (memory.run {} steps).1.records = steps.filterMap Step.record? := by
    rw [run_fst, records_foldl_memory, List.nil_append]
  have hevents : reported.1.events = calls.map Record.event := by
    rw [run_fst, events_foldl_events, List.nil_append]
  refine ⟨⟨hrecords steps, ?_⟩, ?_, perm_recordsAt kept.1, ⟨?_, ?_⟩, ?_, ?_⟩
  · rw [run_fst, events_foldl_memory]
  · intro severity
    rw [Journal.recordsAt, hrecords]
  · rw [hevents, hrecords, List.forall₂_map_left_iff, List.forall₂_same]
    exact fun r _ => carries_event r
  · rw [run_fst, records_foldl_events]
  · intro i
    rw [run_snd]
    congr 1
    funext s
    cases s with
    | records => rw [step, Step.reads, hrecords]
    | recordsAt severity => rw [step, Step.reads, Journal.recordsAt, hrecords]
    | _ => rfl
  · exact fun logger j => run_calls logger j steps

end Logger

end Stagehand
