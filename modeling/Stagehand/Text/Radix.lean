import Stagehand.Text.Numeral

/-!
# Digits of other bases
Numbers in bases up to sixteen, and characters that are named by their code points.
-/

namespace Stagehand

/-- A reader of the beginning of a text; it gives what it read and what is left. -/
abbrev Scan (α : Type) := List Char → Option (α × List Char)

/-- The value of a digit in a base of at most sixteen, a letter being of either case. -/
def digitIn? (base : Nat) (c : Char) : Option Nat :=
  let n :=
    if isDigit c then digitValue c
    else if 'a' ≤ c ∧ c ≤ 'f' then 10 + (c.toNat - 'a'.toNat)
    else if 'A' ≤ c ∧ c ≤ 'F' then 10 + (c.toNat - 'A'.toNat)
    else 16
  if n < base then some n else none

/-- The number that one or more digits of a base spell. -/
def ofRadix? (base : Nat) (cs : List Char) : Option Nat :=
  if cs = [] then none
  else cs.foldlM (fun n c => (digitIn? base c).map fun d => base * n + d) 0

/-- The character with a code point, if there is one. -/
def character? (n : Nat) : Option Char := if n.isValidChar then some (Char.ofNat n) else none

/-- A character named by exactly `count` hexadecimal digits. -/
def scanCodePoint (count : Nat) : Scan Char
  | cs =>
    let digits := cs.take count
    if digits.length ≠ count then none
    else
      match (ofRadix? 16 digits).bind character? with
      | some c => some (c, cs.drop count)
      | none => none

end Stagehand
