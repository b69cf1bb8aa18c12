import Stagehand.Log.Event
import Stagehand.Text.Quoted

/-!
# Log lines
An event is written on one line, either for people or as a JSON object.
-/

namespace Stagehand

/-- How log lines are written. -/
inductive LogFormat
  | json
  | compact
deriving DecidableEq

namespace Event

/-- A value of an event for people. -/
def Value.display : Value → String
  | flag b => if b then "true" else "false"
  | text s => quoted s
  | words s => s

/-- How wide the column of severities is. -/
def severityWidth : Nat := 5

/-- A severity, set to the right of its column. -/
def severityColumn (s : Severity) : String :=
  let label := s.label.toList
  String.ofList (List.replicate (severityWidth - label.length) ' ' ++ label)

/-- The line of an event for people. -/
def compactLine (time : String) (e : Event) : String :=
  let field (f : String × Value) : String := " " ++ f.1 ++ "=" ++ f.2.display
  time ++ " " ++ severityColumn e.severity ++ " " ++ e.target ++ ": " ++ e.message ++
    String.join (e.fields.map field)

/-- The line of an event as a JSON object. -/
def jsonLine (time : String) (e : Event) : String :=
  let fields := ("message", .string e.message) :: e.fields.map fun (n, v) => (n, v.toJson)
  (Json.object [("timestamp", .string time), ("level", .string e.severity.label),
    ("fields", .object fields), ("target", .string e.target)]).text

/-- The line of an event. -/
def line (format : LogFormat) (time : String) (e : Event) : String :=
  match format with
  | .json => e.jsonLine time
  | .compact => e.compactLine time

end Event

end Stagehand
