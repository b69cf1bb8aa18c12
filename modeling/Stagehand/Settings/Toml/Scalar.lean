import Stagehand.Number.Decimal
import Stagehand.Settings.Tree
import Stagehand.Text.Radix

/-!
# Numbers and dates in TOML
The words of TOML: truth values, numbers, and dates and times, which count as their texts in one
fixed form.
-/

namespace Stagehand.Settings.Toml

/-! ### Numbers -/

/-- Digits without the underscores between them. Each underscore stands between two digits. -/
def digits? (isFine : Char → Bool) (cs : List Char) : Option (List Char) :=
  match cs with
  | [] => none
  | [c] => if isFine c then some [c] else none
  | c :: '_' :: cs => if isFine c then (digits? isFine cs).map (c :: ·) else none
  | c :: cs => if isFine c then (digits? isFine cs).map (c :: ·) else none

/-- Digits of a whole number, which begin with zero only if that is all. -/
def whole? (cs : List Char) : Option (List Char) :=
  match digits? isDigit cs with
  | some ('0' :: _ :: _) => none
  | ds => ds

/-- A whole number in a base that its first two characters tell. -/
def based? (base : Nat) (cs : List Char) : Option Int :=
  (digits? (fun c => (digitIn? base c).isSome) cs).bind fun ds =>
    (ofRadix? base ds).map fun n => (n : Int)

/-- The sign of a number, and what comes after it. -/
def signOf : List Char → Bool × List Char
  | '-' :: cs => (true, cs)
  | '+' :: cs => (false, cs)
  | cs => (false, cs)

/-- A whole number of 64 bits. -/
def integer? (cs : List Char) : Option Int :=
  let n := match cs with
    | '0' :: 'x' :: cs => based? 16 cs
    | '0' :: 'o' :: cs => based? 8 cs
    | '0' :: 'b' :: cs => based? 2 cs
    | cs =>
      let (negative, cs) := signOf cs
      (whole? cs).map fun ds => if negative then -(Numeral.value ds : Int) else Numeral.value ds
  n.filter fitsSigned64

/-- An exponent: digits after a sign, if there is one. -/
def exponent? (cs : List Char) : Option Int :=
  let (negative, cs) := signOf cs
  (digits? isDigit cs).map fun ds =>
    if negative then -(Numeral.value ds : Int) else Numeral.value ds

/-- Whether a character begins an exponent. -/
def isExponentMark (c : Char) : Bool := c = 'e' ∨ c = 'E'

/-- A number with a fraction or an exponent, or both. -/
def decimal? (cs : List Char) : Option Decimal :=
  let (negative, cs) := signOf cs
  let mantissa := cs.takeWhile fun c => !isExponentMark c
  let exponent := match cs.dropWhile fun c => !isExponentMark c with
    | [] => some 0
    | _ :: cs => exponent? cs
  let whole := mantissa.takeWhile (· != '.')
  let fraction := match mantissa.dropWhile (· != '.') with
    | [] => if mantissa = cs then none else some []
    | _ :: cs => digits? isDigit cs
  match whole? whole, fraction, exponent with
  | some w, some f, some e => some ⟨negative, w, f, e⟩
  | _, _, _ => none

/-- A floating-point number, which must not be too large unless it is called infinite. -/
def real? (cs : List Char) : Option Binary64 :=
  let (negative, word) := signOf cs
  if word = ['i', 'n', 'f'] then some (.infinite negative)
  else if word = ['n', 'a', 'n'] then some .nan
  else
    match (decimal? cs).map Decimal.toBinary64 with
    | some (.infinite _) => none
    | x => x

/-! ### Dates and times -/

/-- Exactly two digits as a number within bounds, and the rest. -/
def twoDigits (lo hi : Nat) : Scan (List Char)
  | a :: b :: cs =>
    if isDigit a && isDigit b then
      let n := Numeral.value [a, b]
      if lo ≤ n ∧ n ≤ hi then some ([a, b], cs) else none
    else none
  | _ => none

/-- Whether a year has a leap day. -/
def isLeapYear (year : Nat) : Bool := year % 4 = 0 ∧ (year % 100 ≠ 0 ∨ year % 400 = 0)

/-- How many days a month has. -/
def daysIn (year month : Nat) : Nat :=
  if month = 2 then (if isLeapYear year then 29 else 28)
  else if month ∈ [4, 6, 9, 11] then 30
  else 31

/-- A date, and the rest. -/
def date : Scan (List Char)
  | a :: b :: c :: d :: '-' :: cs =>
    if [a, b, c, d].all isDigit then
      match twoDigits 1 12 cs with
      | some (month, '-' :: cs) =>
        let last := daysIn (Numeral.value [a, b, c, d]) (Numeral.value month)
        match twoDigits 1 last cs with
        | some (day, cs) => some ([a, b, c, d, '-'] ++ month ++ '-' :: day, cs)
        | none => none
      | _ => none
    else none
  | _ => none

/-- The fraction of a second: at most nine digits, without the zeros at their end but for one. -/
def fractionText (ds : List Char) : List Char :=
  match ((ds.take 9).reverse.dropWhile (· == '0')).reverse with
  | [] => ['.', '0']
  | kept => '.' :: kept

/-- The seconds of a time with their fraction, which may be missing. -/
def seconds : Scan (List Char)
  | ':' :: cs =>
    match twoDigits 0 60 cs with
    | none => none
    | some (ds, '.' :: cs) =>
      match cs.takeWhile isDigit with
      | [] => none
      | fraction => some (':' :: ds ++ fractionText fraction, cs.dropWhile isDigit)
    | some (ds, cs) => some (':' :: ds, cs)
  | cs => some ([], cs)

/-- A time of day, and the rest. -/
def time : Scan (List Char)
  | cs =>
    match twoDigits 0 23 cs with
    | some (hour, ':' :: cs) =>
      match twoDigits 0 59 cs with
      | some (minute, cs) =>
        match seconds cs with
        | some (second, cs) => some (hour ++ ':' :: minute ++ second, cs)
        | none => none
      | none => none
    | _ => none

/-- An offset from universal time, which ends the text. Without one the time is local. -/
def offset? : List Char → Option (List Char)
  | [] => some []
  | ['Z'] => some ['Z']
  | ['z'] => some ['Z']
  | c :: cs =>
    if c = '+' ∨ c = '-' then
      match twoDigits 0 23 cs with
      | some (hour, ':' :: cs) =>
        match twoDigits 0 59 cs with
        | some (minute, []) =>
          let sign := if hour ++ minute = ['0', '0', '0', '0'] then '+' else c
          some (sign :: hour ++ ':' :: minute)
        | _ => none
      | _ => none
    else none

/-- A date, a time, or both, as text. -/
def moment? (cs : List Char) : Option String :=
  match date cs with
  | some (day, []) => some (String.ofList day)
  | some (day, c :: cs) =>
    if c = 'T' ∨ c = 't' ∨ c = ' ' then
      match time cs with
      | some (hour, cs) => (offset? cs).map fun o => String.ofList (day ++ 'T' :: hour ++ o)
      | none => none
    else none
  | none =>
    match time cs with
    | some (hour, []) => some (String.ofList hour)
    | _ => none

/-! ### Words -/

/-- Whether a character may be part of a word. -/
def isWordChar (c : Char) : Bool :=
  isDigit c ∨ ('a' ≤ c ∧ c ≤ 'z') ∨ ('A' ≤ c ∧ c ≤ 'Z') ∨ c ∈ ['_', '-', '+', '.', ':']

/-- The value of a word. -/
def scalar? (word : List Char) : Option Scalar :=
  if word = ['t', 'r', 'u', 'e'] then some (.flag true)
  else if word = ['f', 'a', 'l', 's', 'e'] then some (.flag false)
  else
    match integer? word, real? word, moment? word with
    | some n, _, _ => some (.integer n)
    | none, some x, _ => some (.real x)
    | none, none, some s => some (.text s)
    | none, none, none => none

/-- A word, and the rest. A date and a time may have a space between them. -/
def splitWord (cs : List Char) : List Char × List Char :=
  let word := cs.takeWhile isWordChar
  match date word, cs.dropWhile isWordChar with
  | some (_, []), ' ' :: c :: cs =>
    if isDigit c then
      (word ++ ' ' :: (c :: cs).takeWhile isWordChar, (c :: cs).dropWhile isWordChar)
    else (word, ' ' :: c :: cs)
  | _, rest => (word, rest)

end Stagehand.Settings.Toml
