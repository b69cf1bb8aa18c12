import Stagehand.Json.Reader
import Stagehand.Settings.Ini
import Stagehand.Settings.Json5
import Stagehand.Settings.Ron
import Stagehand.Settings.Toml.Document
import Stagehand.Settings.Yaml.Document

/-!
# Formats of configuration files
The extension of its name tells in which format a file is written. Whatever the format, a file
holds a table.
-/

namespace Stagehand.Settings

/-- The format of a configuration file. -/
inductive Format
  | toml
  | json
  | yaml
  | ini
  | ron
  | json5
deriving DecidableEq

mutual

/-- The tree of a JSON value. Integers that need more than 64 bits with a sign are rounded. -/
def ofJson : Json → Tree
  | .null => .nil
  | .bool b => .ofScalar (.flag b)
  | .number (.integer n) =>
    .ofScalar (if fitsSigned64 n then .integer n else .real (Binary64.ofRatio (n < 0) n.natAbs 1))
  | .number (.real x) => .ofScalar (.real x)
  | .string s => .ofText s
  | .array items => .list none (ofItems items)
  | .object ms => .table none (ofMembers ms)

/-- The trees of JSON values. -/
def ofItems : List Json → List Tree
  | [] => []
  | j :: js => ofJson j :: ofItems js

/-- The trees of named JSON values. -/
def ofMembers : List (String × Json) → List (String × Tree)
  | [] => []
  | (n, j) :: ms => (n, ofJson j) :: ofMembers ms

end

namespace Format

/-- The extensions that tell a format, in the order in which they are tried. -/
def extensions : List (String × Format) :=
  [("toml", toml), ("json", json), ("yaml", yaml), ("yml", yaml), ("ini", ini), ("ron", ron),
    ("json5", json5)]

/-- The format that an extension tells. -/
def ofExtension? (extension : String) : Option Format := extensions.lookup extension

/-- The value that a text holds. -/
def value? (f : Format) (text : String) : Option Tree :=
  match f with
  | toml => Toml.read text
  | json =>
    match Json.parse text with
    | .ok j => some (ofJson j)
    | .error _ => none
  | yaml => Yaml.read text
  | ini => Ini.read text
  | ron => Ron.read text
  | json5 => Json5.read text

/-- The entries that a file with a text holds, all of them from one place. -/
def entries? (f : Format) (place text : String) : Option (Members Tree) :=
  match f.value? text with
  | some t => (t.located place).entries?
  | none => none

end Format

end Stagehand.Settings
