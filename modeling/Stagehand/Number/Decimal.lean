import Stagehand.Number.Binary64

/-!
# Decimal numbers
Numbers with a point and an exponent, as people write them. There must be a digit before or after
the point.
-/

namespace Stagehand

/-- A decimal number in its parts. -/
structure Decimal where
  negative : Bool
  whole : List Char
  fraction : List Char
  exponent : Int

namespace Decimal

/-- The exponent after its letter, which ends the number. -/
def exponentOf? (cs : List Char) : Option Int :=
  match cs with
  | [] => some 0
  | c :: cs => if c = 'e' ∨ c = 'E' then Numeral.integer? cs else none

/-- The fraction after the whole part, and what comes after it. -/
def fractionOf : List Char → List Char × List Char
  | '.' :: cs => (cs.takeWhile isDigit, cs.dropWhile isDigit)
  | cs => ([], cs)

/-- The parts of a number without its sign. -/
def unsignedOf? (negative : Bool) (cs : List Char) : Option Decimal :=
  let whole := cs.takeWhile isDigit
  let (fraction, rest) := fractionOf (cs.dropWhile isDigit)
  if whole = [] ∧ fraction = [] then none
  else (exponentOf? rest).map fun e => ⟨negative, whole, fraction, e⟩

/-- The parts of a number that may have a sign. -/
def ofChars? : List Char → Option Decimal
  | '-' :: cs => unsignedOf? true cs
  | '+' :: cs => unsignedOf? false cs
  | cs => unsignedOf? false cs

/-- The floating-point number nearest to a decimal number. -/
def toBinary64 (d : Decimal) : Binary64 :=
  Binary64.ofDecimal d.negative (Numeral.value (d.whole ++ d.fraction))
    (d.exponent - d.fraction.length)

end Decimal

/-- The floating-point number nearest to the decimal number that a text spells. -/
def readReal? (cs : List Char) : Option Binary64 := (Decimal.ofChars? cs).map Decimal.toBinary64

end Stagehand
