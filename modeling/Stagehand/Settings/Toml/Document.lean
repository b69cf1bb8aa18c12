import Stagehand.Settings.Toml.Scalar
import Stagehand.Settings.Toml.Table
import Stagehand.Settings.Toml.Text

/-!
# TOML documents
A document is a sequence of headers and entries. Each entry belongs to the table that the last
header before it opened.
-/

namespace Stagehand.Settings.Toml

/-! ### Values -/

/-- The items of an array, after its opening bracket or a comma. -/
def arrayFrom (value : Scan Tree) : (fuel : Nat) → Scan (List Tree)
  | 0, _ => none
  | fuel + 1, cs =>
    match skipLines cs with
    | none => none
    | some (']' :: cs) => some ([], cs)
    | some cs =>
      match value cs with
      | none => none
      | some (t, cs) =>
        match skipLines cs with
        | some (',' :: cs) => (arrayFrom value fuel cs).map fun (ts, cs) => (t :: ts, cs)
        | some (']' :: cs) => some ([t], cs)
        | _ => none

/-- The entries of a table in braces, after its opening brace or a comma. -/
def tableFrom (value : Scan Tree) : (fuel : Nat) → Scan (List (List String × Tree))
  | 0, _ => none
  | fuel + 1, cs =>
    match skipLines cs with
    | none => none
    | some ('}' :: cs) => some ([], cs)
    | some cs =>
      match key cs with
      | some (name, '=' :: cs) =>
        match value (skipSpaces cs) with
        | none => none
        | some (t, cs) =>
          match skipLines cs with
          | some (',' :: cs) => (tableFrom value fuel cs).map fun (es, cs) => ((name, t) :: es, cs)
          | some ('}' :: cs) => some ([(name, t)], cs)
          | _ => none
      | _ => none

/-- The table of entries in braces. -/
def closedTable (entries : List (List String × Tree)) : Option Tree :=
  (entries.foldlM (fun es (name, t) => addEntry name t .opened es) []).map fun es =>
    .table none (treeEntries es)

/-- How deep values may be nested. -/
def maxDepth : Nat := 80

/-- A value that is nested at most `depth` deep. -/
def value : (depth : Nat) → Scan Tree
  | 0, _ => none
  | depth + 1, cs =>
    match cs with
    | '[' :: cs =>
      (arrayFrom (value depth) (cs.length + 1) cs).map fun (ts, cs) => (.list none ts, cs)
    | '{' :: cs =>
      match tableFrom (value depth) (cs.length + 1) cs with
      | none => none
      | some (es, cs) => (closedTable es).map fun t => (t, cs)
    | '"' :: _ => (text cs).map fun (s, cs) => (.ofText s, cs)
    | '\'' :: _ => (text cs).map fun (s, cs) => (.ofText s, cs)
    | _ =>
      let (word, rest) := splitWord cs
      (scalar? word).map fun s => (.ofScalar s, rest)

/-! ### Documents -/

/-- A document that is being read: what it holds so far, and the header of the open table. -/
structure Draft where
  root : Members Node := []
  header : List String := []

/-- What a header or an entry makes of a document; with the rest of the text. -/
def statement (d : Draft) (cs : List Char) : Option (Draft × List Char) :=
  match cs with
  | '[' :: '[' :: cs =>
    match key cs with
    | some (header, ']' :: ']' :: cs) =>
      (openItem header d.root).map fun root => (⟨root, header⟩, cs)
    | _ => none
  | '[' :: cs =>
    match key cs with
    | some (header, ']' :: cs) => (openTable header d.root).map fun root => (⟨root, header⟩, cs)
    | _ => none
  | cs =>
    match key cs with
    | some (name, '=' :: cs) =>
      match value maxDepth (skipSpaces cs) with
      | none => none
      | some (t, cs) =>
        (descend false (addEntry name t) d.header .opened d.root).map fun root =>
          ({ d with root }, cs)
    | _ => none

/-- Reads the rest of a document, which has less than `fuel` statements. -/
def documentFrom : (fuel : Nat) → Draft → List Char → Option Draft
  | 0, _, _ => none
  | fuel + 1, d, cs =>
    match skipLines cs with
    | none => none
    | some [] => some d
    | some cs =>
      match statement d cs with
      | none => none
      | some (d, cs) =>
        match endLine cs with
        | none => none
        | some cs => documentFrom fuel d cs

/-- The table that a document holds. -/
def read (text : String) : Option Tree :=
  (documentFrom (text.length + 1) {} text.toList).map fun d => .table none (treeEntries d.root)

end Stagehand.Settings.Toml
