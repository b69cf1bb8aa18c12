import Stagehand.Json.Printer
import Stagehand.Text.CodeTable
import Stagehand.Text.Numeral
import Stagehand.Url.Percent

/-!
# Internet addresses
Addresses of four numbers, whose parts may be octal, hexadecimal or left out, and addresses of
eight, whose longest row of zeros is written as a gap.
-/

namespace Stagehand

/-! ### Addresses of 32 bits -/

namespace Ip4

/-- The number that digits of a base spell. -/
def numeral (base : Nat) (cs : List Char) : Nat := cs.foldl (fun n c => base * n + hexDigit c) 0

/-- A part of an address: a decimal number, an octal one after a zero, or a hexadecimal one after
`0x`; where no digits follow, zero. -/
def part? : List Char → Option Nat
  | [] => none
  | '0' :: 'x' :: cs | '0' :: 'X' :: cs =>
    if cs.all Percent.isHexDigit then some (numeral 16 cs) else none
  | '0' :: c :: cs =>
    if (c :: cs).all (fun d => '0' ≤ d ∧ d ≤ '7') then some (numeral 8 (c :: cs)) else none
  | cs => if cs.all isDigit then some (numeral 10 cs) else none

/-- A name cut at its points, without an empty piece at the end. -/
def pieces (cs : List Char) : List (List Char) :=
  let ps := cutAt '.' cs
  if ps.getLast? = some [] then ps.dropLast else ps

/-- Whether a name must be an address: its last piece is a number. -/
def isNumeric (cs : List Char) : Bool :=
  match (pieces cs).getLast? with
  | none => false
  | some p => (p ≠ [] ∧ p.all isDigit) ∨ (part? p).isSome

/-- The address of the numbers in its parts: all but the last are one byte, and that one fills
the rest. -/
def ofParts? (ns : List Nat) : Option Nat :=
  match ns.reverse with
  | [] => none
  | last :: leading =>
    let k := leading.length
    if k < 4 ∧ leading.all (· < 256) ∧ last < Nat.pow 256 (4 - k) then
      some (leading.reverse.foldl (fun n b => 256 * n + b) 0 * Nat.pow 256 (4 - k) + last)
    else none

/-- The address that a name is. -/
def parse? (cs : List Char) : Option Nat := ((pieces cs).mapM part?).bind ofParts?

/-- The text of an address: its bytes in decimal. -/
def chars (n : Nat) : List Char :=
  (['.'] : List Char).intercalate
    ([n / 0x1000000 % 256, n / 0x10000 % 256, n / 0x100 % 256, n % 256].map Numeral.ofNat)

end Ip4

/-! ### Addresses of 128 bits -/

namespace Ip6

/-- Up to four hexadecimal digits, and the rest. -/
def word (cs : List Char) : List Char × List Char :=
  let digits := (cs.take 4).takeWhile Percent.isHexDigit
  (digits, cs.drop digits.length)

/-- A byte in decimal, without a zero in front. -/
def byte? (cs : List Char) : Option (Nat × List Char) :=
  let digits := cs.takeWhile isDigit
  let n := Numeral.value digits
  if digits = [] ∨ (digits.length ≠ 1 ∧ digits.head? = some '0') ∨ 255 < n then none
  else some (n, cs.drop digits.length)

/-- Four bytes with points between them, and nothing after them. -/
def bytes? (cs : List Char) : Option (List Nat) := do
  let (a, cs) ← byte? cs
  let '.' :: cs := cs | none
  let (b, cs) ← byte? cs
  let '.' :: cs := cs | none
  let (c, cs) ← byte? cs
  let '.' :: cs := cs | none
  let (d, []) ← byte? cs | none
  return [256 * a + b, 256 * c + d]

/-- The words read so far, and how many of them stand before the gap, if there is one. -/
abbrev Words := List Nat × Option Nat

/-- Reads the words of an address. No more than `fuel` are left. -/
def words? : (fuel : Nat) → Words → List Char → Option Words
  | _, ws, [] => some ws
  | 0, _, _ => none
  | fuel + 1, (ws, gap), ':' :: cs =>
    if gap.isSome then none else words? fuel (ws ++ [0], some (ws.length + 1)) cs
  | fuel + 1, (ws, gap), cs =>
    let (digits, rest) := word cs
    match rest with
    | [] => some (ws ++ [hexNumber digits], gap)
    | ':' :: rest =>
      if rest = [] then none else words? fuel (ws ++ [hexNumber digits], gap) rest
    | '.' :: _ =>
      if digits = [] ∨ 6 < ws.length then none
      else (bytes? cs).map fun bs => (ws ++ bs, gap)
    | _ => none

/-- Eight words, the gap filled with zeros. -/
def filled? (ws : List Nat) : Option Nat → Option (List Nat)
  | none => if ws.length = 8 then some ws else none
  | some k =>
    if ws.length ≤ 8 then some (ws.take k ++ List.replicate (8 - ws.length) 0 ++ ws.drop k)
    else none

/-- The words of an address. -/
def parse? (cs : List Char) : Option (List Nat) := do
  let (ws, gap) ← match cs with
    | ':' :: ':' :: cs => words? 7 ([0], some 1) cs
    | ':' :: _ | [_] | [] => none
    | cs => words? 8 ([], none) cs
  filled? ws gap

/-- Every row of zeros, as its place and its length. -/
def zeroRows (place : Nat) : List Nat → List (Nat × Nat)
  | [] => []
  | 0 :: ws =>
    match zeroRows (place + 1) ws with
    | (p, n) :: rows =>
      if p = place + 1 then (place, n + 1) :: rows else (place, 1) :: (p, n) :: rows
    | [] => [(place, 1)]
  | _ :: ws => zeroRows (place + 1) ws

/-- The first of the longest rows of zeros, if it is longer than one. -/
def gap? (ws : List Nat) : Option (Nat × Nat) :=
  (zeroRows 0 ws).foldl (fun best row =>
    let longest := match best with
      | none => 1
      | some (_, n) => n
    if longest < row.2 then some row else best) none

/-- Words in hexadecimal with colons between them. -/
def wordsChars (ws : List Nat) : List Char :=
  ([':'] : List Char).intercalate (ws.map (Nat.toDigits 16))

/-- The text of an address. -/
def chars (ws : List Nat) : List Char :=
  match gap? ws with
  | none => wordsChars ws
  | some (place, n) => wordsChars (ws.take place) ++ [':', ':'] ++ wordsChars (ws.drop (place + n))

end Ip6

end Stagehand
