import Stagehand.Settings.Tree
import Stagehand.Text.Radix

/-!
# Strings, keys and blanks in TOML
A string stands between single quotes as it is, or between double quotes with escapes; three
quotes allow it to have more than one line.
-/

namespace Stagehand.Settings.Toml

/-- Whether a character may not stand in a line. -/
def isForbidden (c : Char) : Bool := (c < ' ' ∧ c ≠ '\t') ∨ c = '\x7f'

/-! ### Blanks -/

/-- What is left after spaces and tabs. -/
def skipSpaces (cs : List Char) : List Char := cs.dropWhile fun c => c = ' ' ∨ c = '\t'

/-- What is left after the end of a line. -/
def newline? : List Char → Option (List Char)
  | '\n' :: cs => some cs
  | '\r' :: '\n' :: cs => some cs
  | _ => none

/-- What is left of a line after a comment, if there is one. -/
def skipComment (cs : List Char) : Option (List Char) :=
  match cs with
  | '#' :: cs =>
    let line := cs.takeWhile (· != '\n')
    let rest := cs.dropWhile (· != '\n')
    let inner := match line.reverse, rest with
      | '\r' :: before, _ :: _ => before
      | all, _ => all
    if inner.any isForbidden then none
    else if inner.length = line.length then some rest
    else some ('\r' :: rest)
  | cs => some cs

/-- What is left after spaces, comments and ends of lines, of which there are at most `fuel`. -/
def skipLinesFrom : (fuel : Nat) → List Char → Option (List Char)
  | 0, cs => some cs
  | fuel + 1, cs =>
    match skipComment (skipSpaces cs) with
    | none => none
    | some cs =>
      match newline? cs with
      | some cs => skipLinesFrom fuel cs
      | none => some cs

/-- What is left after spaces, comments and ends of lines. -/
def skipLines (cs : List Char) : Option (List Char) := skipLinesFrom (cs.length + 1) cs

/-- What is left after the end of a line, with spaces and a comment before it. -/
def endLine (cs : List Char) : Option (List Char) :=
  match skipComment (skipSpaces cs) with
  | none => none
  | some [] => some []
  | some cs => newline? cs

/-! ### Strings -/

/-- The character of an escape, after its backslash. -/
def escape : Scan Char
  | 'b' :: cs => some ('\x08', cs)
  | 't' :: cs => some ('\t', cs)
  | 'n' :: cs => some ('\n', cs)
  | 'f' :: cs => some ('\x0c', cs)
  | 'r' :: cs => some ('\r', cs)
  | 'e' :: cs => some ('\x1b', cs)
  | '"' :: cs => some ('"', cs)
  | '\\' :: cs => some ('\\', cs)
  | 'x' :: cs => scanCodePoint 2 cs
  | 'u' :: cs => scanCodePoint 4 cs
  | 'U' :: cs => scanCodePoint 8 cs
  | _ => none

/-- The rest of a string between single quotes, of which `before` was read, backwards. -/
def literalFrom (before : List Char) : Scan String
  | [] => none
  | c :: cs =>
    if c = '\'' then some (String.ofList before.reverse, cs)
    else if isForbidden c then none
    else literalFrom (c :: before) cs

/-- The rest of a string between double quotes, of which `before` was read, backwards. -/
def basicFrom : (fuel : Nat) → (before : List Char) → Scan String
  | fuel + 1, before, c :: cs =>
    if c = '"' then some (String.ofList before.reverse, cs)
    else if c = '\\' then
      match escape cs with
      | some (d, cs) => basicFrom fuel (d :: before) cs
      | none => none
    else if isForbidden c then none
    else basicFrom fuel (c :: before) cs
  | _, _, _ => none

/-- What is left after a backslash at the end of a line: the end of the line and all blanks that
follow. -/
def joinLines (cs : List Char) : Option (List Char) :=
  let isBreak (c : Char) : Bool := c ∈ [' ', '\t', '\n', '\r']
  (newline? (skipSpaces cs)).map fun cs => cs.dropWhile isBreak

/-- The rest of a string of several lines between three quotes, of which `before` was read,
backwards. One or two quotes may stand before the three that close it. -/
def linesFrom (quote : Char) : (fuel : Nat) → (before : List Char) → Scan String
  | fuel + 1, before, c :: cs =>
    if c = quote then
      let run := (c :: cs).takeWhile (· == quote)
      if 3 ≤ run.length then
        let kept := min (run.length - 3) 2
        some (String.ofList (List.replicate kept quote ++ before).reverse,
          (c :: cs).drop (kept + 3))
      else linesFrom quote fuel (c :: before) cs
    else if c = '\\' ∧ quote = '"' then
      match joinLines cs with
      | some cs => linesFrom quote fuel before cs
      | none =>
        match escape cs with
        | some (d, cs) => linesFrom quote fuel (d :: before) cs
        | none => none
    else
      match newline? (c :: cs) with
      | some cs => linesFrom quote fuel ('\n' :: before) cs
      | none => if isForbidden c then none else linesFrom quote fuel (c :: before) cs
  | _, _, _ => none

/-- A string of several lines, after its opening quotes; it does not begin with a line break. -/
def lines (quote : Char) (cs : List Char) : Option (String × List Char) :=
  linesFrom quote (cs.length + 1) [] ((newline? cs).getD cs)

/-- A string of one line. -/
def line : Scan String
  | '\'' :: cs => literalFrom [] cs
  | '"' :: cs => basicFrom (cs.length + 1) [] cs
  | _ => none

/-- A string of any kind. -/
def text : Scan String
  | '"' :: '"' :: '"' :: cs => lines '"' cs
  | '\'' :: '\'' :: '\'' :: cs => lines '\'' cs
  | cs => line cs

/-! ### Keys -/

/-- Whether a character may stand in a key without quotes. -/
def isKeyChar (c : Char) : Bool :=
  isDigit c ∨ ('a' ≤ c ∧ c ≤ 'z') ∨ ('A' ≤ c ∧ c ≤ 'Z') ∨ c = '_' ∨ c = '-'

/-- A key without points. -/
def simpleKey : Scan String
  | cs =>
    match cs.takeWhile isKeyChar with
    | [] => line cs
    | name => some (String.ofList name, cs.dropWhile isKeyChar)

/-- A key of one or more parts with points between them. -/
def keyFrom : (fuel : Nat) → Scan (List String)
  | 0, _ => none
  | fuel + 1, cs =>
    match simpleKey (skipSpaces cs) with
    | none => none
    | some (name, cs) =>
      match skipSpaces cs with
      | '.' :: cs => (keyFrom fuel cs).map fun (names, cs) => (name :: names, cs)
      | cs => some ([name], cs)

/-- A key of one or more parts, with the spaces around it. -/
def key : Scan (List String)
  | cs => keyFrom (cs.length + 1) cs

end Stagehand.Settings.Toml
