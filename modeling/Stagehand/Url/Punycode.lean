/-!
# Punycode
Text of any script written with letters, digits and hyphens: the characters of the first 128 as
they are, then a number for each other one that tells which character goes where. The numbers are
written in digits whose weights adapt to the differences met so far.
-/

namespace Stagehand.Punycode

/-- The number of digits. -/
def base : Nat := 36

/-- The lowest threshold of a digit. -/
def minThreshold : Nat := 1

/-- The highest threshold of a digit. -/
def maxThreshold : Nat := 26

/-- The first character that needs a number. -/
def firstCode : Nat := 128

/-- The bias before the first number. -/
def firstBias : Nat := 72

/-- The value of a digit: the letters first, in either case. -/
def digit? (c : Char) : Option Nat :=
  if 'a' ≤ c ∧ c ≤ 'z' then some (c.toNat - 'a'.toNat)
  else if 'A' ≤ c ∧ c ≤ 'Z' then some (c.toNat - 'A'.toNat)
  else if '0' ≤ c ∧ c ≤ '9' then some (c.toNat - '0'.toNat + 26)
  else none

/-- The digit of a value. -/
def digitChar (d : Nat) : Char :=
  if d < 26 then Char.ofNat ('a'.toNat + d) else Char.ofNat ('0'.toNat + (d - 26))

/-- Below which value a digit is the last one of its number; `k` grows by `base` with each digit. -/
def threshold (k bias : Nat) : Nat := max minThreshold (min maxThreshold (k - bias))

/-- The part of the bias that depends on the size of a difference. -/
def biasOf (delta k : Nat) : Nat :=
  if 455 < delta then biasOf (delta / 35) (k + base) else k + 36 * delta / (delta + 38)
termination_by delta
decreasing_by omega

/-- The bias after a difference, among `count` characters. -/
def adapted (delta count : Nat) (first : Bool) : Nat :=
  let delta := if first then delta / 700 else delta / 2
  biasOf (delta + delta / count) 0

/-! ### Reading -/

/-- Whether a number is that of a character. -/
def isScalar (n : Nat) : Bool := n < 0xd800 ∨ (0xdfff < n ∧ n < 0x110000)

/-- Reads the numbers and inserts their characters into `out`. `n` and `i` are the character and
the place reached, `start` is where the present number began to count, and `w` is the weight of
the next digit. -/
def inserted (out : List Char) (n i start bias k w : Nat) : List Char → Option (List Char)
  | [] => if k = base then some out else none
  | c :: cs =>
    match digit? c with
    | none => none
    | some d =>
      let i := i + d * w
      let t := threshold k bias
      if d < t then
        let count := out.length + 1
        let n := n + i / count
        let place := i % count
        if isScalar n then
          inserted (out.take place ++ Char.ofNat n :: out.drop place) n (place + 1) (place + 1)
            (adapted (i - start) count (start == 0)) base 1 cs
        else none
      else inserted out n i start bias (k + base) (w * (base - t)) cs

/-- The text before the last hyphen, and the numbers after it. -/
def split (cs : List Char) : List Char × List Char :=
  let numbers := (cs.reverse.takeWhile (· != '-')).reverse
  if numbers.length = cs.length then ([], cs)
  else if numbers.length + 1 = cs.length then ([], cs)
  else (cs.take (cs.length - numbers.length - 1), numbers)

/-- The text that was written in Punycode. -/
def decode? (cs : List Char) : Option (List Char) :=
  let (plain, numbers) := split cs
  inserted plain firstCode 0 0 firstBias base 1 numbers

/-! ### Writing -/

/-- The digits of a number. -/
def numberDigits (bias q k : Nat) : List Char :=
  let t := threshold k bias
  if q < t then [digitChar q]
  else digitChar (t + (q - t) % (base - t)) :: numberDigits bias ((q - t) / (base - t)) (k + base)
termination_by q
decreasing_by
  have hpos : 0 < threshold k bias := Nat.lt_of_lt_of_le Nat.zero_lt_one (Nat.le_max_left ..)
  exact Nat.lt_of_le_of_lt (Nat.div_le_self _ _) (by omega)

/-- How far writing has come: what is written, the difference since the last number, the bias and
how many characters are done. -/
structure Progress where
  out : List Char
  delta : Nat
  bias : Nat
  done : Nat

namespace Progress

/-- Goes past one character of the text while writing the numbers of the character `n`. -/
def pass (first n : Nat) (p : Progress) (c : Char) : Progress :=
  if c.toNat < n then { p with delta := p.delta + 1 }
  else if c.toNat = n then
    { out := p.out ++ numberDigits p.bias p.delta base
      delta := 0
      bias := adapted p.delta (p.done + 1) (p.done == first)
      done := p.done + 1 }
  else p

end Progress

/-- Writes the numbers of the characters in `codes`, which are in ascending order; all below `n`
are done. -/
def numbers (cs : List Char) (first : Nat) (p : Progress) (n : Nat) : List Nat → List Char
  | [] => p.out
  | m :: codes =>
    let p := { p with delta := p.delta + (m - n) * (p.done + 1) }
    let p := cs.foldl (Progress.pass first m) p
    numbers cs first { p with delta := p.delta + 1 } (m + 1) codes

/-- The text in Punycode. -/
def encode (cs : List Char) : List Char :=
  let plain := cs.filter fun c => c.toNat < firstCode
  let codes := ((cs.filter fun c => firstCode ≤ c.toNat).map Char.toNat).mergeSort.eraseDups
  let first := plain.length
  let start : Progress :=
    ⟨if plain = [] then [] else plain ++ ['-'], 0, firstBias, first⟩
  numbers cs first start firstCode codes

end Stagehand.Punycode
