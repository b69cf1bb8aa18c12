/-!
# Numerals
Whole numbers written in decimal digits. A numeral is read leniently, with a plus sign and zeros
in front; it is written in the one shortest way.
-/

namespace Stagehand

/-- Whether a character is a decimal digit. -/
def isDigit (c : Char) : Bool := '0' ≤ c ∧ c ≤ '9'

/-- The value of a decimal digit. -/
def digitValue (c : Char) : Nat := c.toNat - '0'.toNat

namespace Numeral

/-- The number that a list of digits spells, continuing from the number spelled so far. -/
def valueFrom (n : Nat) (digits : List Char) : Nat :=
  digits.foldl (fun n c => 10 * n + digitValue c) n

/-- The number that a list of digits spells. -/
def value (digits : List Char) : Nat := valueFrom 0 digits

/-- One or more digits and nothing else. -/
def digits? (cs : List Char) : Option Nat :=
  if cs ≠ [] ∧ cs.all isDigit then some (value cs) else none

/-- A numeral that may have a plus sign. -/
def natural? : List Char → Option Nat
  | '+' :: cs => digits? cs
  | cs => digits? cs

/-- A numeral that may have a sign. -/
def integer? : List Char → Option Int
  | '-' :: cs => (digits? cs).map fun n => -(n : Int)
  | cs => (natural? cs).map fun n => (n : Int)

/-- The digits of a number, without leading zeros. -/
def ofNat (n : Nat) : List Char := Nat.toDigits 10 n

/-- An integer in digits, with a minus sign where it is negative. -/
def ofInt : Int → List Char
  | .ofNat n => ofNat n
  | .negSucc n => '-' :: ofNat (n + 1)

/-- The digits of a number, with zeros in front up to `width`. -/
def padded (width n : Nat) : List Char :=
  let ds := ofNat n
  List.replicate (width - ds.length) '0' ++ ds

end Numeral

/-! ### Ranges of machine words -/

/-- The largest unsigned number of 64 bits. -/
def maxUnsigned64 : Nat := 0xffffffffffffffff

/-- Whether an integer fits into 64 bits with a sign. -/
def fitsSigned64 (n : Int) : Bool := -0x8000000000000000 ≤ n ∧ n ≤ 0x7fffffffffffffff

/-- A numeral, possibly with a plus sign, of an unsigned number of 64 bits. -/
def unsigned64? (cs : List Char) : Option Nat :=
  (Numeral.natural? cs).filter (· ≤ maxUnsigned64)

/-- A numeral, possibly with a sign, of a signed number of 64 bits. -/
def signed64? (cs : List Char) : Option Int :=
  (Numeral.integer? cs).filter fitsSigned64

/-! ### Faults in numerals -/

/-- What can be wrong with a numeral of 64 bits. -/
inductive NumeralFault
  | empty
  | invalidDigit
  | tooLarge
deriving DecidableEq

namespace NumeralFault

/-- The words for what is wrong with a numeral. -/
def message : NumeralFault → String
  | empty => "cannot parse integer from empty string"
  | invalidDigit => "invalid digit found in string"
  | tooLarge => "number too large to fit in target type"

end NumeralFault

/-- Reads digits on from the number spelled so far; the first thing that is wrong counts. -/
def readDigits (n : Nat) : List Char → Except NumeralFault Nat
  | [] => .ok n
  | c :: cs =>
    if isDigit c then
      let n := 10 * n + digitValue c
      if n ≤ maxUnsigned64 then readDigits n cs else .error .tooLarge
    else .error .invalidDigit

/-- Reads a numeral of an unsigned number of 64 bits, possibly with a plus sign. -/
def readUnsigned64 : List Char → Except NumeralFault Nat
  | [] => .error .empty
  | ['+'] => .error .invalidDigit
  | '+' :: cs => readDigits 0 cs
  | cs => readDigits 0 cs

end Stagehand
