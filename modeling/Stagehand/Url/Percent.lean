import Stagehand.Json.Printer
import Stagehand.Text.CodeTable
import Stagehand.Text.Radix
import Stagehand.Text.Utf8

/-!
# Percent encoding
A character that may not stand for itself in a part of a URL is written as its bytes, each a
percent sign and two hexadecimal digits. Which characters these are differs from part to part.
-/

namespace Stagehand

namespace Percent

/-! ### The parts of a URL -/

/-- Control characters, and all beyond the first 128. -/
def isControl (c : Char) : Bool := c < ' ' ∨ '~' < c

/-- What is encoded in a fragment. -/
def inFragment (c : Char) : Bool := isControl c ∨ c ∈ [' ', '"', '<', '>', '`']

/-- What is encoded in a path. -/
def inPath (c : Char) : Bool := inFragment c ∨ c ∈ ['#', '?', '{', '}']

/-- What is encoded in a user name or a password. -/
def inUserinfo (c : Char) : Bool :=
  inPath c ∨ c ∈ ['/', ':', ';', '=', '@', '[', '\\', ']', '^', '|']

/-- What is encoded in a query. -/
def inQuery (c : Char) : Bool := isControl c ∨ c ∈ [' ', '"', '#', '<', '>']

/-- What is encoded in a query under a special scheme. -/
def inSpecialQuery (c : Char) : Bool := inQuery c ∨ c = '\''

/-! ### Writing -/

/-- A hexadecimal digit in upper case. -/
def digit (n : Nat) : Char := (Json.hexChar n).toUpper

/-- A byte, encoded. -/
def byte (b : UInt8) : List Char := ['%', digit (b.toNat / 16), digit (b.toNat % 16)]

/-- A character, encoded where it has to be. -/
def char (encoded : Char → Bool) (c : Char) : List Char :=
  if encoded c then (Utf8.bytes [c]).flatMap byte else [c]

/-- A text with those characters encoded that have to be. -/
def encode (encoded : Char → Bool) (cs : List Char) : List Char := cs.flatMap (char encoded)

/-! ### Reading -/

/-- Whether a character is a hexadecimal digit. -/
def isHexDigit (c : Char) : Bool := (digitIn? 16 c).isSome

/-- The bytes of a text in which some are encoded. A percent sign without two digits stands for
itself. -/
def decode : List Char → List UInt8
  | [] => []
  | '%' :: a :: b :: cs =>
    if isHexDigit a && isHexDigit b then UInt8.ofNat (hexNumber [a, b]) :: decode cs
    else Utf8.bytes ['%'] ++ decode (a :: b :: cs)
  | c :: cs => Utf8.bytes [c] ++ decode cs

end Percent

end Stagehand
