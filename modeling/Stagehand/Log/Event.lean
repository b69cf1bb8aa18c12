import Stagehand.Log.Severity

/-!
# Events
What a part of the program reports to whoever follows the run: a message with named values.
-/

namespace Stagehand

/-- A value of an event. A text is data and is quoted where it is displayed; words are displayed
as they are. -/
inductive Event.Value
  | flag (b : Bool)
  | text (s : String)
  | words (s : String)
deriving DecidableEq

/-- An event: where it comes from, how grave it is, and what it tells. -/
structure Event where
  target : String
  severity : Severity
  message : String
  fields : List (String × Event.Value) := []
deriving DecidableEq

/-- The JSON value of a value of an event. -/
def Event.Value.toJson : Event.Value → Json
  | flag b => .bool b
  | text s => .string s
  | words s => .string s

end Stagehand
