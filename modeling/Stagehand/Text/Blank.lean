/-!
# Blank characters
White space in the sense of the Unicode standard, and texts without it at either end.
-/

namespace Stagehand

/-- The characters that count as white space. -/
def isBlank (c : Char) : Bool :=
  ('\t' ≤ c ∧ c ≤ '\r') ∨ c = ' ' ∨ c = '\u0085' ∨ c = '\u00a0' ∨ c = '\u1680' ∨
    ('\u2000' ≤ c ∧ c ≤ '\u200a') ∨ c = '\u2028' ∨ c = '\u2029' ∨ c = '\u202f' ∨
    c = '\u205f' ∨ c = '\u3000'

/-- A list of characters without the blanks at its ends. -/
def trimBlanks (cs : List Char) : List Char :=
  ((cs.dropWhile isBlank).reverse.dropWhile isBlank).reverse

/-- A text without the blanks at its ends, or nothing where that leaves it empty. -/
def nonBlank (s : String) : Option String :=
  match trimBlanks s.toList with
  | [] => none
  | cs => some (String.ofList cs)

end Stagehand
