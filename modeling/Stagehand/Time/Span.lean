import Stagehand.Text.Numeral

/-!
# Spans of time
The text of a span is a decimal number of the largest unit, among seconds and its thousandth
parts, that makes it at least one.
-/

namespace Stagehand

/-- A span of time in nanoseconds. -/
structure Span where
  nanos : Nat
deriving DecidableEq

namespace Span

/-- A span of milliseconds. -/
def ofMillis (n : Nat) : Span := ⟨n * 1000000⟩

/-- The milliseconds of a span, rounded down. -/
def millis (s : Span) : Nat := s.nanos / 1000000

@[simp] theorem millis_ofMillis (n : Nat) : (ofMillis n).millis = n :=
  Nat.mul_div_cancel n (by decide)

/-- A decimal number with `places` digits of fraction, without the zeros at its end. -/
def decimal (places whole fraction : Nat) : List Char :=
  let digits := ((Numeral.padded places fraction).reverse.dropWhile (· == '0')).reverse
  Numeral.ofNat whole ++ (if digits = [] then [] else '.' :: digits)

/-- The text of a span. -/
def text (s : Span) : String :=
  let n := s.nanos
  String.ofList <|
    if 1000000000 ≤ n then decimal 9 (n / 1000000000) (n % 1000000000) ++ ['s']
    else if 1000000 ≤ n then decimal 6 (n / 1000000) (n % 1000000) ++ ['m', 's']
    else if 1000 ≤ n then decimal 3 (n / 1000) (n % 1000) ++ ['µ', 's']
    else Numeral.ofNat n ++ ['n', 's']

end Span

end Stagehand
