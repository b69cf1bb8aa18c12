import Stagehand.Text.CodeTable
import Stagehand.Text.Utf8

/-!
# The environment
The variables of a process, by their names. A process keeps them as one block of bytes, in which
a zero ends each variable and the first equals sign ends its name.
-/

namespace Stagehand

/-- The variables of the environment by their names. -/
abbrev Environment := List (String × String)

namespace Environment

/-- The variable that a text describes; without an equals sign it is none. -/
def variableOf? (text : String) : Option (String × String) :=
  let name := text.toList.takeWhile (· != '=')
  match text.toList.drop name.length with
  | [] => none
  | _ :: value => some (String.ofList name, String.ofList value)

/-- The variables of a block of bytes. -/
def ofBlock (block : List UInt8) : Environment :=
  (cutAt '\u0000' (Utf8.shown block).toList).filterMap fun v => variableOf? (String.ofList v)

end Environment

end Stagehand
