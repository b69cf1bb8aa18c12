/-!
# Bytes as text
A byte string read as UTF-8 is a list of symbols: characters, and the stray bytes between them
that belong to no character. Stray bytes are grouped as they are replaced: one group for each
longest run that a well-formed character could have begun with.
-/

namespace Stagehand

/-- A symbol of a byte string: a character, or stray bytes that belong to none. -/
inductive Sym
  | char (c : Char)
  | stray (bytes : List UInt8)
deriving DecidableEq

namespace Sym

/-- The number of bytes of a symbol. -/
def width : Sym → Nat
  | char c => c.utf8Size
  | stray bytes => bytes.length

/-- The character of a symbol, stray bytes being shown as one replacement character. -/
def shown : Sym → Char
  | char c => c
  | stray _ => '\ufffd'

/-- The character of a symbol that is one. -/
def char? : Sym → Option Char
  | char c => some c
  | stray _ => none

end Sym

namespace Utf8

/-- The symbols of a text, which has no stray bytes. -/
def ofChars (cs : List Char) : List Sym := cs.map .char

/-- The symbols of a text, which has no stray bytes. -/
def ofString (s : String) : List Sym := ofChars s.toList

/-- The bytes of a text. -/
def bytes (cs : List Char) : List UInt8 := cs.flatMap String.utf8EncodeChar

/-- The number of bytes of a list of symbols. -/
def width (s : List Sym) : Nat := s.foldl (fun n c => n + c.width) 0

/-- What a lead byte announces: how many bytes follow it, and the range of the first of these. -/
def announced (b : UInt8) : Nat × UInt8 × UInt8 :=
  if b < 0xc2 then (0, 0, 0)
  else if b < 0xe0 then (1, 0x80, 0xbf)
  else if b = 0xe0 then (2, 0xa0, 0xbf)
  else if b = 0xed then (2, 0x80, 0x9f)
  else if b < 0xf0 then (2, 0x80, 0xbf)
  else if b = 0xf0 then (3, 0x90, 0xbf)
  else if b < 0xf4 then (3, 0x80, 0xbf)
  else if b = 0xf4 then (3, 0x80, 0x8f)
  else (0, 0, 0)

/-- Up to `n` bytes that continue a character, the first of them from `lo` to `hi`; and the rest. -/
def continuation : (n : Nat) → (lo hi : UInt8) → List UInt8 → List UInt8 × List UInt8
  | 0, _, _, bs => ([], bs)
  | _ + 1, _, _, [] => ([], [])
  | n + 1, lo, hi, b :: bs =>
    if lo ≤ b ∧ b ≤ hi then
      let (taken, rest) := continuation n 0x80 0xbf bs
      (b :: taken, rest)
    else ([], b :: bs)

theorem length_continuation_le (n : Nat) (lo hi : UInt8) (bs : List UInt8) :
    (continuation n lo hi bs).2.length ≤ bs.length := by
  induction n generalizing lo hi bs with
  | zero => simp [continuation]
  | succ n ih =>
    cases bs with
    | nil => simp [continuation]
    | cons b bs =>
      simp only [continuation]
      split
      · exact Nat.le_succ_of_le (ih _ _ _)
      · simp

/-- The character of a lead byte and all the bytes that continue it. -/
def assembled (b : UInt8) (more : List UInt8) : Char :=
  let lead := b.toNat % Nat.pow 2 (6 - more.length)
  Char.ofNat (more.foldl (fun n c => 64 * n + c.toNat % 64) lead)

/-- The symbols of a byte string. -/
def symbols : List UInt8 → List Sym
  | [] => []
  | b :: bs =>
    if b < 0x80 then .char (Char.ofNat b.toNat) :: symbols bs
    else
      let (n, lo, hi) := announced b
      let more := continuation n lo hi bs
      have := length_continuation_le n lo hi bs
      (if n ≠ 0 ∧ more.1.length = n then .char (assembled b more.1) else .stray (b :: more.1))
        :: symbols more.2
termination_by bs => bs.length
decreasing_by all_goals simp only [List.length_cons]; omega

/-- A byte string as text, each group of stray bytes shown as one replacement character. -/
def shown (bs : List UInt8) : String := String.ofList ((symbols bs).map Sym.shown)

/-- A byte string as text, if it has no stray bytes. -/
def text? (bs : List UInt8) : Option String :=
  ((symbols bs).mapM Sym.char?).map String.ofList

end Utf8

end Stagehand
