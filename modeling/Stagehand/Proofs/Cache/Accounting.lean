import Stagehand.Proofs.Cache.Provider
import Stagehand.Proofs.Cache.Reply

/-!
# Accounting for commands
Every command to the remote cache is counted once and timed once, however often it is sent on. A
command that fails is counted as an error and reported, once each. A command that succeeds is not,
whatever becomes of its result.
-/

namespace Stagehand

/-! ### Failures -/

/-- The errors of a command that failed. Others are errors of a configuration, or of a result that
was not expected. -/
def CacheError.isFailure : CacheError → Bool
  | transport _ => true
  | remote _ _ _ => true
  | payload _ => true
  | _ => false

/-- Whether a command failed. -/
def CacheCommand.failed : Except CacheError CacheAnswer → Bool
  | .ok _ => false
  | .error e => e.isFailure

/-- A result that means no answer is not a failure. -/
theorem CacheCommand.failed_answer (c : CacheCommand) (v : Json) : failed (c.answer v) = false := by
  simp only [answer]
  split
  -- only what is taken for a number is looked at any further
  case h_6 | h_7 => split <;> rfl
  all_goals rfl

theorem CacheCommand.isFailure_of_classify {command : String} {status : Status}
    {body : List UInt8} {e : CacheError} (h : classify command status body = .error e) :
    e.isFailure = true := by
  rcases CacheReply.replies_cases body with ⟨v, hv⟩ | ⟨v, m, hv⟩ | hv
  · rw [classify_of_result hv] at h
    split at h <;> cases h
    rfl
  · rw [classify_of_error hv] at h
    cases h
    rfl
  · obtain ⟨e', he⟩ := classify_of_malformed command status hv
    rw [he] at h
    split at h <;> cases h <;> rfl

namespace RemoteCache

variable {r : RemoteCache} {c : CacheCommand} {w : World}

theorem isFailure_of_execute {e : CacheError} (h : (r.execute c w).1 = .error e) :
    e.isFailure = true := by
  cases hx : (Request.exchange maxRedirects (r.request c) w.network).1 with
  | error x =>
    rw [execute_fst_of_broken hx] at h
    cases h
    rfl
  | ok response =>
    rw [execute_fst hx] at h
    exact CacheCommand.isFailure_of_classify h

theorem failed_perform_eq (r : RemoteCache) (c : CacheCommand) (w : World) :
    CacheCommand.failed (r.perform c w).1 =
      match (r.execute c w).1 with
      | .ok _ => false
      | .error _ => true := by
  rw [perform_eq]
  cases h : (r.execute c w).1 with
  | error e => exact isFailure_of_execute h
  | ok v => exact c.failed_answer v

/-- A command fails unless it yields a value. -/
theorem failed_perform_iff :
    CacheCommand.failed (r.perform c w).1 = true ↔ ¬ ∃ v, r.Yields c w.network v := by
  rw [failed_perform_eq]
  cases h : (r.execute c w).1 with
  | ok v =>
    simp only [Bool.false_eq_true, false_iff]
    intro hn
    exact hn ⟨v, execute_eq_ok_iff.mp h⟩
  | error e =>
    simp only [true_iff]
    rintro ⟨v, hv⟩
    rw [execute_eq_ok_iff.mpr hv] at h
    cases h

end RemoteCache

/-! ### The books -/

/-- An event that reports a failed command of a name. -/
def Event.reportsFailure (name : String) (e : Event) : Bool :=
  e.target = RemoteCache.target ∧ e.severity = .debug ∧
    e.message = "remote cache command failed" ∧ ("command", .text name) ∈ e.fields

/-- The books on the commands of one name: how many were counted and how many were timed, and how
many were counted as errors and how many were reported. -/
structure Account where
  commands : Nat
  times : Nat
  errors : Nat
  reports : Nat
deriving DecidableEq

/-- What the metrics and the journal say about the commands of a name. -/
def World.account (w : World) (name : String) : Account where
  commands := w.metrics.total (.commands name)
  times := w.metrics.total (.commandTimes name)
  errors := w.metrics.total (.commandErrors name)
  reports := w.journal.events.countP (Event.reportsFailure name)

/-- Enters commands, and how many of them failed. -/
def Account.enter (a : Account) (commands failures : Nat) : Account :=
  ⟨a.commands + commands, a.times + commands, a.errors + failures, a.reports + failures⟩

@[simp] theorem Account.enter_zero (a : Account) : a.enter 0 0 = a := rfl

theorem Account.enter_enter (a : Account) (m n m' n' : Nat) :
    (a.enter m n).enter m' n' = a.enter (m + m') (n + n') := by
  simp only [enter, Nat.add_assoc]

namespace World

@[simp] theorem journal_count (w : World) (s : Series) : (w.count s).journal = w.journal := rfl

@[simp] theorem metrics_report (w : World) (e : Event) : (w.report e).metrics = w.metrics := rfl

@[simp] theorem events_report (w : World) (e : Event) :
    (w.report e).journal.events = w.journal.events ++ [e] := rfl

/-- Counting a command and timing it enters it. -/
theorem account_sent (w : World) (command name : String) :
    ((w.count (.commands command)).count (.commandTimes command)).account name =
      (w.account name).enter (if command = name then 1 else 0) 0 := by
  simp [account, Account.enter, total_count]

theorem reportsFailure_failureEvent (command name : String) (e : CacheError) :
    (RemoteCache.failureEvent command e).reportsFailure name = decide (command = name) := by
  simp [Event.reportsFailure, RemoteCache.failureEvent, eq_comm]

/-- Counting an error and reporting it enters a failure. -/
theorem account_failure (w : World) (command name : String) (e : CacheError) :
    ((w.count (.commandErrors command)).report (RemoteCache.failureEvent command e)).account name =
      (w.account name).enter 0 (if command = name then 1 else 0) := by
  simp [account, Account.enter, total_count, reportsFailure_failureEvent]

end World

namespace RemoteCache

theorem account_send (r : RemoteCache) (c : CacheCommand) (w : World) (name : String) :
    (r.send c w).2.account name = w.account name := by
  simp only [send]
  split <;> rfl

/-- One command is entered once, under its own name. -/
theorem account_execute (r : RemoteCache) (c : CacheCommand) (w : World) (name : String) :
    (r.execute c w).2.account name =
      (w.account name).enter (if c.name = name then 1 else 0)
        (if c.name = name ∧ CacheCommand.failed (r.perform c w).1 = true then 1 else 0) := by
  rw [failed_perform_eq, ← r.account_send c w name, execute_eq]
  cases (r.send c w).1 with
  | ok v => simp [World.account_sent]
  | error e =>
    simp only [World.account_failure, World.account_sent, Account.enter_enter]
    simp

end RemoteCache

/-! ### Operations -/

namespace CacheClient

/-- What is done with a client: a command is carried out, or a value of any type is read or kept as
a JSON text. Between two operations the network and the time may change. -/
inductive Operation
  | perform (c : CacheCommand)
  | getJson {α : Type} (reader : Json.Reader α) (key : String)
  | setJson (key : String) (serialized : Except Json.ReadError String) (expiry : Option Nat)
  | elapse (network : Network) (now : String)

/-- The command that an operation is carried out by. A value without a JSON text needs none. -/
def Operation.command? : Operation → Option CacheCommand
  | perform c => some c
  | getJson _ key => some (.get key)
  | setJson key (.ok text) expiry => some (.set key text expiry)
  | setJson _ (.error _) _ => none
  | elapse _ _ => none

/-- One operation. -/
def operate (client : CacheClient) (w : World) : Operation → World
  | .perform c => (client.perform c w).2
  | .getJson reader key => (client.getJson reader key w).2
  | .setJson key serialized expiry => (client.setSerialized key serialized expiry w).2
  | .elapse network now => { w with network, now }

/-- Any number of operations. -/
def operateAll (client : CacheClient) (w : World) (ops : List Operation) : World :=
  ops.foldl client.operate w

/-- What becomes of the commands of some operations, in their order. -/
def outcomes (client : CacheClient) (w : World) :
    List Operation → List (CacheCommand × Except CacheError CacheAnswer)
  | [] => []
  | op :: ops =>
    (op.command?.map fun c => (c, (client.perform c w).1)).toList ++
      client.outcomes (client.operate w op) ops

theorem outcomes_map_fst (client : CacheClient) (w : World) (ops : List Operation) :
    (client.outcomes w ops).map Prod.fst = ops.filterMap Operation.command? := by
  induction ops generalizing w with
  | nil => rfl
  | cons op ops ih =>
    rw [outcomes, List.map_append, ih]
    cases h : op.command? with
    | none => simp [List.filterMap_cons_none h]
    | some c => simp [List.filterMap_cons_some h]

/-- An operation leaves the world as its command does. -/
theorem operate_of_command? {client : CacheClient} {w : World} {op : Operation} {c : CacheCommand}
    (h : op.command? = some c) : client.operate w op = (client.perform c w).2 := by
  cases op with
  | perform c' =>
    cases h
    rfl
  | getJson reader key =>
    cases h
    simp only [operate, getJson]
    split
    · rename_i hp
      rw [hp]
    · rename_i hp
      rw [hp]
      split <;> rfl
    · rename_i hp
      rw [hp]
  | setJson key serialized expiry =>
    cases serialized with
    | error e => cases h
    | ok text =>
      cases h
      rfl
  | elapse network now => cases h

/-- An operation without a command enters nothing. -/
theorem account_operate_of_none {client : CacheClient} {w : World} {op : Operation}
    (h : op.command? = none) (name : String) :
    (client.operate w op).account name = w.account name := by
  cases op with
  | perform c => cases h
  | getJson reader key => cases h
  | setJson key serialized expiry =>
    cases serialized with
    | error e => rfl
    | ok text => cases h
  | elapse network now => rfl

end CacheClient

namespace RemoteCache

/-- Whether an outcome is a failure of a command of a name. -/
def failsAs (name : String) (o : CacheCommand × Except CacheError CacheAnswer) : Bool :=
  o.1.name = name ∧ CacheCommand.failed o.2

/-- One operation enters its command, and enters it as a failure if it failed. -/
theorem account_operate (r : RemoteCache) (w : World) (op : CacheClient.Operation)
    (name : String) :
    let client := CacheClient.live (.remote r)
    let outcome := (op.command?.map fun c => (c, (client.perform c w).1)).toList
    (client.operate w op).account name =
      (w.account name).enter (outcome.countP fun o => o.1.name = name)
        (outcome.countP (failsAs name)) := by
  intro client outcome
  cases h : op.command? with
  | none =>
    simp only [outcome, h]
    exact CacheClient.account_operate_of_none h name
  | some c =>
    rw [CacheClient.operate_of_command? h]
    simp only [outcome, h]
    simp only [client, CacheClient.perform, Backend.perform, Option.map_some, Option.toList_some,
      List.countP_singleton, failsAs, decide_eq_true_eq]
    rw [← r.account_execute c w name, perform_eq]

theorem account_operateAll (r : RemoteCache) (w : World) (ops : List CacheClient.Operation)
    (name : String) :
    let client := CacheClient.live (.remote r)
    (client.operateAll w ops).account name =
      (w.account name).enter ((client.outcomes w ops).countP fun o => o.1.name = name)
        ((client.outcomes w ops).countP (failsAs name)) := by
  intro client
  induction ops generalizing w with
  | nil => rfl
  | cons op ops ih =>
    have hrest := ih (client.operate w op)
    rw [r.account_operate w op name, Account.enter_enter] at hrest
    rw [CacheClient.outcomes, List.countP_append, List.countP_append]
    exact hrest

/-- After any operations every command has been counted once and timed once, and every one that
failed has been counted as an error and reported once. A command fails unless it yields a value;
what the value means does not matter. Behind `https`, where a peer never answers here, every command
fails. -/
theorem operateAll_accounts (r : RemoteCache) (w : World) (ops : List CacheClient.Operation)
    (name : String) :
    let client := CacheClient.live (.remote r)
    let w' := client.operateAll w ops
    let commands := (ops.filterMap CacheClient.Operation.command?).countP fun c => c.name = name
    let failures := (client.outcomes w ops).countP (failsAs name)
    w'.metrics.total (.commands name) = w.metrics.total (.commands name) + commands ∧
    w'.metrics.total (.commandTimes name) = w.metrics.total (.commandTimes name) + commands ∧
    w'.metrics.total (.commandErrors name) = w.metrics.total (.commandErrors name) + failures ∧
    w'.journal.events.countP (Event.reportsFailure name) =
      w.journal.events.countP (Event.reportsFailure name) + failures ∧
    failures ≤ commands ∧
    (client.outcomes w ops).map Prod.fst = ops.filterMap CacheClient.Operation.command? ∧
    ∀ (c : CacheCommand) (w : World),
      CacheCommand.failed (client.perform c w).1 = true ↔ ¬ ∃ v, r.Yields c w.network v := by
  intro client w' commands failures
  have hcommands : (client.outcomes w ops).countP (fun o => o.1.name = name) = commands := by
    simp only [commands, ← client.outcomes_map_fst w ops, List.countP_map]
    rfl
  have hbooks := r.account_operateAll w ops name
  simp only at hbooks
  rw [hcommands] at hbooks
  refine ⟨congrArg Account.commands hbooks, congrArg Account.times hbooks,
    congrArg Account.errors hbooks, congrArg Account.reports hbooks, ?_,
    client.outcomes_map_fst w ops, fun c w => failed_perform_iff⟩
  rw [← hcommands]
  apply List.countP_mono_left
  intro o _ ho
  simp only [failsAs, decide_eq_true_eq] at ho
  simpa using ho.1

end RemoteCache

end Stagehand
