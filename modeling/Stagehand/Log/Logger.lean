import Stagehand.Log.Record

/-!
# Loggers
A logger hands its records on: to the event stream, into memory, or to any other sink. What has been
handed on, kept and reported so far is a journal.
-/

namespace Stagehand

/-- What has been reported: the records that were kept, the events, and all the records that any
logger has handed on. They are in the order in which they came. -/
structure Journal where
  records : List Record := []
  events : List Event := []
  emitted : List Record := []

namespace Journal

/-- Reports an event. -/
def report (j : Journal) (e : Event) : Journal := { j with events := j.events ++ [e] }

/-- Keeps a record. -/
def keep (j : Journal) (r : Record) : Journal := { j with records := j.records ++ [r] }

/-- Notes a record that is handed on. -/
def note (j : Journal) (r : Record) : Journal := { j with emitted := j.emitted ++ [r] }

/-- The kept records of a severity. -/
def recordsAt (j : Journal) (severity : Severity) : List Record :=
  j.records.filter fun r => r.severity = severity

end Journal

/-- A message to be logged, with what its caller adds to the record and the text of the time. -/
structure Message where
  text : String
  context : LogContext := []
  time : String

/-- Where a logger's records go: into the stream of events, into memory, or to a sink of any other
kind. Such a sink knows the records before, and may report events of its own. -/
inductive Logger
  | events
  | memory
  | other (sink : (before : List Record) → Record → List Event)

namespace Logger

/-- Hands a record on. -/
def emit (logger : Logger) (j : Journal) (r : Record) : Journal :=
  match logger with
  | events => (j.note r).report r.event
  | memory => (j.note r).keep r
  | other sink => (sink j.emitted r).foldl Journal.report (j.note r)

/-- Logs a message at a time. -/
def log (logger : Logger) (j : Journal) (severity : Severity) (message : String)
    (context : LogContext) (time : String) : Journal :=
  logger.emit j (.stamped severity message context time)

/-- Logs a message that helps to find a fault. -/
def debug (logger : Logger) (j : Journal) (m : Message) : Journal :=
  logger.log j .debug m.text m.context m.time

/-- Logs a message that tells how things go. -/
def info (logger : Logger) (j : Journal) (m : Message) : Journal :=
  logger.log j .info m.text m.context m.time

/-- Logs a message of something that is not as it should be. -/
def warn (logger : Logger) (j : Journal) (m : Message) : Journal :=
  logger.log j .warn m.text m.context m.time

/-- Logs a message of something that failed. -/
def error (logger : Logger) (j : Journal) (m : Message) : Journal :=
  logger.log j .error m.text m.context m.time

/-- What a logger shows of itself: nothing. -/
def description : String := "Logger \x7b .. \x7d"

/-! ### Runs -/

/-- What is done with a logger and its sink: a message is logged, or the kept records are read. -/
inductive Step
  | log (severity : Severity) (m : Message)
  | debug (m : Message)
  | info (m : Message)
  | warn (m : Message)
  | error (m : Message)
  | records
  | recordsAt (severity : Severity)

/-- The journal after a step, and the records if the step reads them. -/
def step (logger : Logger) (j : Journal) : Step → Journal × Option (List Record)
  | .log severity m => (logger.log j severity m.text m.context m.time, none)
  | .debug m => (logger.debug j m, none)
  | .info m => (logger.info j m, none)
  | .warn m => (logger.warn j m, none)
  | .error m => (logger.error j m, none)
  | .records => (j, some j.records)
  | .recordsAt severity => (j, some (j.recordsAt severity))

/-- The journal after steps one after the other, and what each of them reads. -/
def run (logger : Logger) (j : Journal) : List Step → Journal × List (Option (List Record))
  | [] => (j, [])
  | s :: steps =>
    let (j, read) := logger.step j s
    let (j, reads) := logger.run j steps
    (j, read :: reads)

end Logger

end Stagehand
