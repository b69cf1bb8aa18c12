import Stagehand.Http.Exchange
import Stagehand.Log.Logger
import Stagehand.Metrics

/-!
# The world around a run
All that a run can see and change: the network and what was tried on it, the journal, the metrics,
and the time.
-/

namespace Stagehand

/-- A store in memory with one place for a value, and what it was asked for. -/
structure Shelf where
  value : Option String := none
  calls : List String := []

/-- What a run sees and changes. The time is the text that records are stamped with. -/
structure World where
  network : Network := .unreachable
  contacts : List Contact := []
  shelf : Shelf := {}
  journal : Journal := {}
  metrics : Metrics := {}
  now : String := ""

namespace World

/-- Reports an event. -/
def report (w : World) (e : Event) : World := { w with journal := w.journal.report e }

/-- Counts one more. -/
def count (w : World) (s : Series) : World := { w with metrics := w.metrics.increment s }

/-- Logs a message. -/
def log (w : World) (logger : Logger) (severity : Severity) (message : String)
    (context : LogContext) : World :=
  { w with journal := logger.log w.journal severity message context w.now }

end World

end Stagehand
