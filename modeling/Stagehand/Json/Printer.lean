import Stagehand.Json.Value

/-!
# JSON texts
The text of a value has no blanks. In strings only quotes, backslashes and control characters are
escaped, so that the text is a single line.
-/

namespace Stagehand.Json

/-! ### Numbers -/

namespace Number

/-- How far before the decimal point a number may begin to be written positionally. -/
def positionalDigits : Int := 16

/-- How many zeros a number may have between its point and its first digit, less one. -/
def positionalZeros : Int := 5

/-- A positive number from the digits of its shortest decimal and their exponent of ten: in
positional notation with at least one digit after the point, or with an exponent that has a
sign where the number is very large or small. -/
def decimalText (ds : List Char) (p : Int) : List Char :=
  let point : Int := ds.length + p
  if 0 ≤ p ∧ point ≤ positionalDigits then ds ++ List.replicate p.toNat '0' ++ ['.', '0']
  else if 0 < point ∧ point ≤ positionalDigits then
    ds.take point.toNat ++ '.' :: ds.drop point.toNat
  else if -positionalZeros < point ∧ point ≤ 0 then
    '0' :: '.' :: List.replicate (-point).toNat '0' ++ ds
  else
    let mantissa := match ds with
      | [d] => [d]
      | d :: more => d :: '.' :: more
      | [] => []
    let e := point - 1
    mantissa ++ 'e' :: (if 0 ≤ e then ['+'] else ['-']) ++ Numeral.ofNat e.natAbs

/-- The text of a floating-point number. What is not finite has no JSON number. -/
def realText : Binary64 → List Char
  | .finite negative m e =>
    (if negative then ['-'] else []) ++
      if m = 0 then ['0', '.', '0']
      else
        let (d, p) := Binary64.shortest m e
        decimalText (Numeral.ofNat d) p
  | _ => ['n', 'u', 'l', 'l']

/-- The text of a number. -/
def chars : Number → List Char
  | integer n => Numeral.ofInt n
  | real x => realText x

end Number

/-! ### Strings -/

/-- A hexadecimal digit in lower case. -/
def hexChar (n : Nat) : Char := Nat.digitChar n

/-- How a character is written in a string. -/
def stringChar (c : Char) : List Char :=
  if c = '"' then ['\\', '"']
  else if c = '\\' then ['\\', '\\']
  else if c = '\x08' then ['\\', 'b']
  else if c = '\x0c' then ['\\', 'f']
  else if c = '\n' then ['\\', 'n']
  else if c = '\r' then ['\\', 'r']
  else if c = '\t' then ['\\', 't']
  else if c < ' ' then ['\\', 'u', '0', '0', hexChar (c.toNat / 16), hexChar (c.toNat % 16)]
  else [c]

/-- The text of a string. -/
def stringChars (s : String) : List Char := '"' :: s.toList.flatMap stringChar ++ ['"']

/-! ### Values -/

mutual

/-- The text of a value. -/
def chars : Json → List Char
  | null => ['n', 'u', 'l', 'l']
  | bool true => ['t', 'r', 'u', 'e']
  | bool false => ['f', 'a', 'l', 's', 'e']
  | number n => n.chars
  | string s => stringChars s
  | array [] => ['[', ']']
  | array (v :: vs) => '[' :: chars v ++ itemsChars vs
  | object [] => ['{', '}']
  | object ((k, v) :: ms) => '{' :: stringChars k ++ ':' :: chars v ++ membersChars ms

/-- The items after the first one, and the bracket that closes the array. -/
def itemsChars : List Json → List Char
  | [] => [']']
  | v :: vs => ',' :: chars v ++ itemsChars vs

/-- The members after the first one, and the brace that closes the object. -/
def membersChars : List (String × Json) → List Char
  | [] => ['}']
  | (k, v) :: ms => ',' :: stringChars k ++ ':' :: chars v ++ membersChars ms

end

/-- The text of a value. -/
def text (v : Json) : String := String.ofList v.chars

end Stagehand.Json
