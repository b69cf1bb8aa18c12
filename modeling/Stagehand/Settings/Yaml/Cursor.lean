import Stagehand.Settings.Yaml.Scalar

/-!
# Lines and columns in YAML
A reader stands at a column of a line. It skips blanks, comments and ends of lines to get to the
next token, and notices whether the line has changed.
-/

namespace Stagehand.Settings.Yaml

/-- Where a reader stands, and the values that were given names so far. -/
structure Cursor where
  rest : List Char
  column : Nat := 0
  anchors : List (String × Node) := []

namespace Cursor

/-- The cursor after some characters of the line. -/
def skip (p : Cursor) (n : Nat) : Cursor :=
  { p with rest := p.rest.drop n, column := p.column + n }

/-- The cursor at the beginning of a line. -/
def atLine (p : Cursor) (rest : List Char) : Cursor := { p with rest, column := 0 }

/-- The cursor before what is left after some text, which may have ends of lines. -/
def moveTo (p : Cursor) (rest : List Char) : Cursor :=
  let taken := p.rest.take (p.rest.length - rest.length)
  let last := taken.reverse.takeWhile fun c => c ≠ '\n' ∧ c ≠ '\r'
  if last.length = taken.length then { p with rest, column := p.column + taken.length }
  else { p with rest, column := last.length }

end Cursor

/-! ### Characters -/

/-- Whether a character is blank within a line. -/
def isSpace (c : Char) : Bool := c = ' ' ∨ c = '\t'

/-- Whether a character ends a line. -/
def isBreak (c : Char) : Bool := c = '\n' ∨ c = '\r'

/-- Whether a text begins with a blank or is at its end. -/
def atBlank : List Char → Bool
  | [] => true
  | c :: _ => isSpace c ∨ isBreak c

/-- Whether a character separates the parts of a collection in brackets or braces. -/
def isFlowMark (c : Char) : Bool := c ∈ [',', '[', ']', '{', '}']

/-- What is left after the end of a line. -/
def breakLine : List Char → Option (List Char)
  | '\r' :: '\n' :: cs => some cs
  | '\n' :: cs => some cs
  | '\r' :: cs => some cs
  | _ => none

/-- Whether a line begins with the mark of the beginning or the end of a document. -/
def isMarker (cs : List Char) : Bool :=
  match cs with
  | '-' :: '-' :: '-' :: cs => atBlank cs
  | '.' :: '.' :: '.' :: cs => atBlank cs
  | _ => false

namespace Cursor

/-- Whether there is nothing left of the document. -/
def atEnd (p : Cursor) : Bool := p.rest = [] ∨ (p.column = 0 ∧ isMarker p.rest)

/-- The cursor after the blanks of the line. -/
def skipSpaces (p : Cursor) : Cursor := p.skip (p.rest.takeWhile isSpace).length

/-- The cursor after a comment. -/
def skipComment (p : Cursor) : Cursor := p.skip (p.rest.takeWhile fun c => !isBreak c).length

end Cursor

/-- Goes to the next token, on a line after this one if there is none; says whether the line has
changed. Only within brackets and braces may a line begin with a tab. -/
def nextTokenFrom (inFlow : Bool) : (fuel : Nat) → (crossed : Bool) → (spaced : Bool) → Cursor →
    Option (Bool × Cursor)
  | 0, _, _, _ => none
  | fuel + 1, crossed, spaced, p =>
    let q := p.skipSpaces
    let spaced := spaced || q.column != p.column
    match q.rest with
    | [] => some (crossed, q)
    | c :: _ =>
      if c = '#' ∧ spaced then nextTokenFrom inFlow fuel crossed true q.skipComment
      else
        match breakLine q.rest with
        | some rest => nextTokenFrom inFlow fuel true true (q.atLine rest)
        | none =>
          if crossed ∧ !inFlow ∧ p.column = 0 ∧ '\t' ∈ p.rest.takeWhile isSpace then none
          else some (crossed, q)

/-- Goes to the next token; at the beginning of a line the line counts as changed. -/
def nextToken (inFlow : Bool) (p : Cursor) : Option (Bool × Cursor) :=
  nextTokenFrom inFlow (2 * p.rest.length + 2) (p.column = 0) (p.column = 0) p

end Stagehand.Settings.Yaml
