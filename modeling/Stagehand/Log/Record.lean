import Stagehand.Log.Event
import Stagehand.Time.Moment

/-!
# Log records
A record is a set of named JSON values. It always has a severity, a message and a time, which
belong to the record alone, and two identifiers, which are null until the context supplies them.
-/

namespace Stagehand

/-- The values that a caller adds to a record. -/
abbrev LogContext := Members Json

/-- A log record. -/
structure Record where
  severity : Severity
  message : String
  fields : Members Json

namespace Record

/-- The name of the identifier of a request. -/
def requestId : String := "requestId"

/-- The name of the identifier of a tenant. -/
def tenantId : String := "tenantId"

/-- The values of a record before its context is known. -/
def placeholders : Members Json := Members.ofList [(requestId, .null), (tenantId, .null)]

/-- A record with the text of its time. The context replaces the placeholders but neither the
severity nor the message nor the time. -/
def stamped (severity : Severity) (message : String) (context : LogContext) (time : String) :
    Record where
  severity := severity
  message := message
  fields := (placeholders.extend context).extend
    [("level", severity.toJson), ("message", .string message), ("timestamp", .string time)]

/-- A record of a moment. -/
def ofMoment (severity : Severity) (message : String) (context : LogContext) (time : Moment) :
    Record :=
  stamped severity message context time.text

/-- The value of a name. -/
def get? (r : Record) (name : String) : Option Json := Members.get? name r.fields

/-- The text of a record: a JSON object on one line. -/
def text (r : Record) : String := (Json.object r.fields).text

/-- Where events that carry records come from. -/
def target : String := "fanhub::log"

/-- The event that carries a record. -/
def event (r : Record) : Event where
  target := target
  severity := r.severity
  message := r.message
  fields := [("record", .words r.text)]

end Record

end Stagehand
