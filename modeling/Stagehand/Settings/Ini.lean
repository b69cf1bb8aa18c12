import Stagehand.Settings.Tree
import Stagehand.Text.Blank
import Stagehand.Text.Radix

/-!
# INI files
A file of sections with entries, all of whose values are texts. A backslash escapes the next
character in names and values alike, and a comment takes up a whole line. Of two sections with
one name only the later counts.
-/

namespace Stagehand.Settings.Ini

/-- The character that a letter stands for after a backslash; most stand for themselves. -/
def escaped (c : Char) : Char :=
  if c = '0' then '\u0000'
  else if c = 'a' then '\x07'
  else if c = 'b' then '\x08'
  else if c = 't' then '\t'
  else if c = 'r' then '\r'
  else if c = 'n' then '\n'
  else c

/-- What an escape stands for, after its backslash. -/
def escape : Scan (List Char)
  | [] => none
  | 'x' :: cs => (scanCodePoint 4 cs).map fun (c, cs) => ([c], cs)
  | '\n' :: cs => some ([], cs)
  | c :: cs => some ([escaped c], cs)

/-- The text up to a character that ends it, which is not taken; `before` was read, backwards. -/
def textFrom (isEnd : Char → Bool) (mayStop : Bool) : (fuel : Nat) → (before : List Char) →
    Scan (List Char)
  | fuel + 1, before, c :: cs =>
    if isEnd c then some (before.reverse, c :: cs)
    else if c = '\\' then
      match escape cs with
      | some (ds, cs) => textFrom isEnd mayStop fuel (ds ++ before) cs
      | none => none
    else textFrom isEnd mayStop fuel (c :: before) cs
  | _, before, [] => if mayStop then some (before.reverse, []) else none
  | 0, _, _ => none

/-- The text up to a character that ends it. The file must not end before that. -/
def textUntil (isEnd : Char → Bool) : Scan (List Char)
  | cs => textFrom isEnd false (cs.length + 1) [] cs

/-- The text up to the end of the line. -/
def lineText : Scan (List Char)
  | cs => textFrom (fun c => c = '\n' ∨ c = '\r') true (cs.length + 1) [] cs

/-- A text without the blanks at its end. -/
def trimEnd (cs : List Char) : List Char := (cs.reverse.dropWhile isBlank).reverse

/-- The parts of a value, which may be quoted and follow one another. Only a part that is not
quoted ends the value; it loses the blanks at its end, and those at its beginning if it is the
first. -/
def valueFrom : (fuel : Nat) → (first : Bool) → Scan (List Char)
  | 0, _, _ => none
  | _ + 1, _, [] => some ([], [])
  | fuel + 1, first, c :: cs =>
    if c = '"' ∨ c = '\'' then
      match textUntil (· == c) cs with
      | none => none
      | some (inner, rest) =>
        (valueFrom fuel false (rest.drop 1)).map fun (more, rest) => (inner ++ more, rest)
    else
      (lineText (c :: cs)).map fun (line, rest) =>
        (if first then trimBlanks line else trimEnd line, rest)

/-- A value, after the sign that follows its name. -/
def value (cs : List Char) : Option (List Char × List Char) :=
  let isSpace (c : Char) : Bool := isBlank c ∧ c ≠ '\n' ∧ c ≠ '\r'
  let cs := cs.dropWhile isSpace
  valueFrom (cs.length + 1) true cs

/-- A file that is being read: its sections so far, the last first, and its open name. -/
structure Draft where
  top : List (String × Tree) := []
  sections : List (String × List (String × Tree)) := []
  name : List Char := []

namespace Draft

/-- Adds an entry with the open name to the last section. -/
def add (d : Draft) (value : List Char) : Draft :=
  let entry := (String.ofList d.name, Tree.ofText (String.ofList value))
  match d.sections with
  | [] => { d with top := d.top ++ [entry], name := [] }
  | (s, entries) :: before => { d with sections := (s, entries ++ [entry]) :: before, name := [] }

/-- The table that the sections make up. -/
def tree (d : Draft) : Tree :=
  .ofEntries (d.top ++ d.sections.reverse.map fun (s, entries) => (s, Tree.ofEntries entries))

end Draft

/-- Reads the rest of a file, of which there are less than `fuel` parts. `atStart` says whether a
line begins here, as it must before a comment. -/
def fileFrom : (fuel : Nat) → (atStart : Bool) → Draft → List Char → Option Draft
  | 0, _, _, _ => none
  | _ + 1, _, d, [] => some d
  | fuel + 1, atStart, d, c :: cs =>
    if isBlank c then fileFrom fuel (c = '\n') d cs
    else if c = ';' ∨ c = '#' then
      if atStart then fileFrom fuel true d ((cs.dropWhile (· != '\n')).drop 1) else none
    else if c = '[' then
      match textUntil (· == ']') cs with
      | none => none
      | some (name, rest) =>
        let s := String.ofList (trimBlanks name)
        fileFrom fuel false { d with sections := (s, []) :: d.sections } (rest.drop 1)
    else if c = '=' ∨ c = ':' then
      if d.name = [] then none
      else
        match value cs with
        | none => none
        | some (v, rest) => fileFrom fuel false (d.add v) rest
    else
      match textUntil (fun c => c = '=' ∨ c = ':') (c :: cs) with
      | none => none
      | some (name, rest) => fileFrom fuel false { d with name := trimBlanks name } rest

/-- The table that a file holds. -/
def read (text : String) : Option Tree :=
  (fileFrom (text.length + 1) true {} text.toList).map Draft.tree

end Stagehand.Settings.Ini
