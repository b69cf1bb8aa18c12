import Stagehand.Text.Numeral

/-!
# Binary floating-point numbers of 64 bits
A finite number is a mantissa of at most 53 bits times a power of two. Every operation is exact
arithmetic on whole numbers followed by one rounding, to the nearest number and, of two equally
near, to the one with the even mantissa.
-/

namespace Stagehand

/-- A binary floating-point number of 64 bits. -/
inductive Binary64
  | nan
  | infinite (negative : Bool)
  /-- The number `mantissa * 2 ^ exponent`, negated where `negative` says so. -/
  | finite (negative : Bool) (mantissa : Nat) (exponent : Int)
deriving DecidableEq

namespace Binary64

/-- The exponent of the smallest numbers. -/
def minExponent : Int := -1074

/-- The exponent of the largest numbers. -/
def maxExponent : Int := 971

/-- What all mantissas are below. -/
def maxMantissa : Nat := 0x20000000000000

/-- Zero, with its sign. -/
def zero (negative : Bool) : Binary64 := .finite negative 0 minExponent

/-- The fraction `num / den * 2 ^ (-e)` as a pair of whole numbers. -/
def scaledDown (num den : Nat) (e : Int) : Nat × Nat :=
  if 0 ≤ e then (num, den <<< e.toNat) else (num <<< (-e).toNat, den)

/-- The quotient of two numbers, rounded to the nearest whole number and a half to the even one. -/
def roundedQuotient (num den : Nat) : Nat :=
  let q := num / den
  let r := num % den
  if den < 2 * r ∨ (2 * r = den ∧ q % 2 = 1) then q + 1 else q

/-- The number nearest to `num / den`, for a positive `den`. -/
def ofRatio (negative : Bool) (num den : Nat) : Binary64 :=
  if num = 0 then zero negative
  else
    let e₀ := max ((num.log2 : Int) - den.log2 - 53) minExponent
    let (n₀, d₀) := scaledDown num den e₀
    let e := if n₀ / d₀ < maxMantissa then e₀ else e₀ + 1
    let (n, d) := scaledDown num den e
    let q := roundedQuotient n d
    let (m, e) := if q = maxMantissa then (maxMantissa / 2, e + 1) else (q, e)
    if maxExponent < e then .infinite negative else .finite negative m e

/-- The number nearest to a whole number. -/
def ofNat (n : Nat) : Binary64 := ofRatio false n 1

/-- The number nearest to `digits * 10 ^ exponent`. -/
def ofDecimal (negative : Bool) (digits : Nat) (exponent : Int) : Binary64 :=
  let magnitude : Int := (Numeral.ofNat digits).length + exponent
  if digits = 0 ∨ magnitude < -400 then zero negative
  else if 400 < magnitude then .infinite negative
  else if 0 ≤ exponent then ofRatio negative (digits * Nat.pow 10 exponent.toNat) 1
  else ofRatio negative digits (Nat.pow 10 (-exponent).toNat)

/-- The same number with the other sign. -/
def neg : Binary64 → Binary64
  | nan => nan
  | infinite s => infinite !s
  | finite s m e => finite (!s) m e

/-- The magnitude of a finite number as a fraction. -/
def ratio (mantissa : Nat) (exponent : Int) : Nat × Nat :=
  if 0 ≤ exponent then (mantissa <<< exponent.toNat, 1) else (mantissa, 1 <<< (-exponent).toNat)

/-- The product of a finite number and `num / den`, rounded; other numbers stay as they are. -/
def scaled (x : Binary64) (num den : Nat) : Binary64 :=
  match x with
  | finite s m e =>
    let (n, d) := ratio m e
    ofRatio s (n * num) (d * den)
  | _ => x

/-- Whether a number is zero, of either sign. -/
def isZero : Binary64 → Bool
  | finite _ m _ => m = 0
  | _ => false

/-- The number rounded to a whole one, a half going away from zero, and cut off at the ends of
the range of unsigned numbers of 64 bits. What is no number counts as zero. -/
def toUnsigned64 : Binary64 → Nat
  | nan => 0
  | infinite negative => if negative then 0 else maxUnsigned64
  | finite true _ _ => 0
  | finite false m e =>
    let (n, d) := ratio m e
    min ((2 * n + d) / (2 * d)) maxUnsigned64

/-! ### Shortest decimals -/

/-- `10 ^ p` as a fraction. -/
def powerOfTen (p : Int) : Nat × Nat :=
  if 0 ≤ p then (Nat.pow 10 p.toNat, 1) else (1, Nat.pow 10 (-p).toNat)

/-- The interval of reals that round to a number, in quarters of the last place of its mantissa:
the distance down and the distance up. Below a power of two the numbers lie twice as close. -/
def reach (mantissa : Nat) (exponent : Int) : Nat × Nat :=
  (if mantissa = maxMantissa / 2 ∧ minExponent < exponent then 1 else 2, 2)

/-- Whether the decimal `d * 10 ^ p` reads back as the number. -/
def readsBack (mantissa : Nat) (exponent : Int) (d : Nat) (p : Int) : Bool :=
  let (down, up) := reach mantissa exponent
  let (un, ud) := ratio 1 (exponent - 2)
  let (pn, pd) := powerOfTen p
  let x := d * pn * ud
  let lo := (4 * mantissa - down) * un * pd
  let hi := (4 * mantissa + up) * un * pd
  if mantissa % 2 = 0 then lo ≤ x ∧ x ≤ hi else lo < x ∧ x < hi

/-- How many digits a positive number has before its decimal point; not positive below one. -/
def integerDigits (mantissa : Nat) (exponent : Int) : Int :=
  let (n, d) := ratio mantissa exponent
  let guess := Int.fdiv (((mantissa.log2 : Int) + exponent) * 30103) 100000
  let below (k : Int) : Bool :=
    let (pn, pd) := powerOfTen k
    n * pd < pn * d
  if below guess then guess
  else if below (guess + 1) then guess + 1
  else guess + 2

/-- The decimal with `count` digits that reads back as a positive number and is nearest to it. -/
def decimalOf? (mantissa : Nat) (exponent : Int) (count : Nat) : Option (Nat × Int) :=
  let p := integerDigits mantissa exponent - count
  let (n, d) := ratio mantissa exponent
  let (pn, pd) := powerOfTen p
  let num := n * pd
  let den := d * pn
  let q := num / den
  let lower := readsBack mantissa exponent q p
  let upper := readsBack mantissa exponent (q + 1) p
  if lower ∧ upper then some (if 2 * (num % den) ≤ den then q else q + 1, p)
  else if lower then some (q, p)
  else if upper then some (q + 1, p)
  else none

/-- A decimal without the zeros at the end of its digits. -/
def normalized : Nat → Nat × Int → Nat × Int
  | 0, dp => dp
  | fuel + 1, (d, p) => if d ≠ 0 ∧ d % 10 = 0 then normalized fuel (d / 10, p + 1) else (d, p)

/-- The digits and the exponent of ten of the shortest decimal that reads back as a positive
number. Seventeen digits always do. -/
def shortest (mantissa : Nat) (exponent : Int) : Nat × Int :=
  match (List.range 17).findSome? fun i => decimalOf? mantissa exponent (i + 1) with
  | some dp => normalized 17 dp
  | none => (mantissa, 0)

/-- The shortest decimal of a magnitude in positional notation, with a point only where there is
a fraction. -/
def positional (mantissa : Nat) (exponent : Int) : List Char :=
  if mantissa = 0 then ['0']
  else
    let (d, p) := shortest mantissa exponent
    let ds := Numeral.ofNat d
    let point : Int := ds.length + p
    if 0 ≤ p then ds ++ List.replicate p.toNat '0'
    else if 0 < point then ds.take point.toNat ++ '.' :: ds.drop point.toNat
    else '0' :: '.' :: List.replicate (-point).toNat '0' ++ ds

/-- A number in positional notation. -/
def plain : Binary64 → String
  | nan => "NaN"
  | infinite negative => if negative then "-inf" else "inf"
  | finite negative m e =>
    String.ofList ((if negative then ['-'] else []) ++ positional m e)

end Binary64

end Stagehand
