import Stagehand.Json.Fault
import Stagehand.Text.Radix

/-!
# Words, strings and numbers of a JSON text
Readers of the smallest parts. Each one starts after the characters by which the part was
recognised, and stops at the first symbol that does not belong to it.
-/

namespace Stagehand.Json

/-- What is left after blanks. -/
def skipBlanks : List Sym → List Sym
  | .char ' ' :: r => skipBlanks r
  | .char '\n' :: r => skipBlanks r
  | .char '\t' :: r => skipBlanks r
  | .char '\r' :: r => skipBlanks r
  | r => r

/-- Reads the remaining letters of a word. -/
def readWord : List Char → Reader Unit
  | [], r => .ok ((), r)
  | _ :: _, [] => faultHere .eofInValue []
  | c :: cs, s :: r => if s = .char c then readWord cs r else faultNext .expectedWord (s :: r)

/-! ### Strings -/

/-- Four hexadecimal digits, which are four bytes in any case. -/
def hexUnit : Reader Nat
  | .char a :: .char b :: .char c :: .char d :: r =>
    match digitIn? 16 a, digitIn? 16 b, digitIn? 16 c, digitIn? 16 d with
    | some a', some b', some c', some d' => .ok (((a' * 16 + b') * 16 + c') * 16 + d', r)
    | _, _, _, _ => .error ⟨.invalidEscape, .char a :: .char b :: .char c :: .char d :: r, 4⟩
  | r => if Utf8.width r < 4 then faultHere .eofInString [] else .error ⟨.invalidEscape, r, 4⟩

/-- Whether a code unit is the first half of a pair. -/
def isHighSurrogate (n : Nat) : Bool := 0xd800 ≤ n ∧ n ≤ 0xdbff

/-- Whether a code unit is the second half of a pair. -/
def isLowSurrogate (n : Nat) : Bool := 0xdc00 ≤ n ∧ n ≤ 0xdfff

/-- The second half of a pair of code units, and the character of the pair. -/
def lowHalf (high : Nat) : Reader Char
  | [] => faultHere .eofInString []
  | s :: r =>
    if s ≠ .char '\\' then faultNext .endOfHexEscape (s :: r)
    else match r with
      | [] => faultHere .eofInString []
      | t :: r =>
        if t ≠ .char 'u' then faultNext .endOfHexEscape (t :: r)
        else match hexUnit r with
          | .error f => .error f
          | .ok (low, r) =>
            if isLowSurrogate low then
              .ok (Char.ofNat ((high - 0xd800) * 1024 + (low - 0xdc00) + 0x10000), r)
            else faultHere .loneSurrogate r

/-- The character of an escape by a single letter. -/
def shortEscape? (c : Char) : Option Char :=
  if c = '"' ∨ c = '\\' ∨ c = '/' then some c
  else if c = 'b' then some '\x08'
  else if c = 'f' then some '\x0c'
  else if c = 'n' then some '\n'
  else if c = 'r' then some '\r'
  else if c = 't' then some '\t'
  else none

/-- The character of an escape by its code unit, which may be half of a pair. -/
def hexEscape : Reader Char
  | s => match hexUnit s with
    | .error f => .error f
    | .ok (n, r) =>
      if isLowSurrogate n then faultHere .loneSurrogate r
      else if isHighSurrogate n then lowHalf n r
      else .ok (Char.ofNat n, r)

/-- The character of an escape, after its backslash. -/
def readEscape : Reader Char
  | [] => faultHere .eofInString []
  | .stray bytes :: r => faultNext .invalidEscape (.stray bytes :: r)
  | .char c :: r =>
    if c = 'u' then hexEscape r
    else match shortEscape? c with
      | some d => .ok (d, r)
      | none => faultNext .invalidEscape (.char c :: r)

theorem hexUnit_shorter {s r : List Sym} {n : Nat} (h : hexUnit s = .ok (n, r)) :
    r.length < s.length := by
  unfold hexUnit at h
  split at h
  · split at h
    · simp only [Except.ok.injEq, Prod.mk.injEq] at h
      obtain ⟨-, rfl⟩ := h
      simp only [List.length_cons]
      omega
    · cases h
  · split at h <;> cases h

theorem lowHalf_shorter {high : Nat} {s r : List Sym} {c : Char} (h : lowHalf high s = .ok (c, r)) :
    r.length < s.length := by
  match s with
  | [] => cases h
  | [s] =>
    simp only [lowHalf] at h
    split at h <;> cases h
  | s :: t :: r₀ =>
    simp only [lowHalf] at h
    split at h
    · cases h
    split at h
    · cases h
    split at h
    · cases h
    rename_i hx
    have := hexUnit_shorter hx
    split at h
    · simp only [Except.ok.injEq, Prod.mk.injEq] at h
      obtain ⟨-, rfl⟩ := h
      simp only [List.length_cons]
      omega
    · cases h

theorem hexEscape_shorter {s r : List Sym} {c : Char} (h : hexEscape s = .ok (c, r)) :
    r.length < s.length := by
  simp only [hexEscape] at h
  split at h
  · cases h
  rename_i hx
  have := hexUnit_shorter hx
  split at h
  · cases h
  split at h
  · have := lowHalf_shorter h; omega
  · cases h; assumption

theorem readEscape_shorter {s r : List Sym} {c : Char} (h : readEscape s = .ok (c, r)) :
    r.length < s.length := by
  match s with
  | [] => cases h
  | .stray _ :: _ => cases h
  | .char d :: r₀ =>
    simp only [readEscape] at h
    split at h
    · have := hexEscape_shorter h; simp only [List.length_cons]; omega
    split at h
    · cases h; simp only [List.length_cons]; omega
    · cases h

/-- The rest of a string, of which `before` was read already, backwards. A string that is not
`sound` holds stray bytes, which is noticed at its end. -/
def readStringFrom (before : List Char) (sound : Bool) : Reader String
  | [] => faultHere .eofInString []
  | .char c :: r =>
    if c = '"' then
      if sound then .ok (String.ofList before.reverse, r) else faultHere .invalidCharacter r
    else if c = '\\' then
      match h : readEscape r with
      | .error f => .error f
      | .ok (d, r') =>
        have := readEscape_shorter h
        readStringFrom (d :: before) sound r'
    else if c < ' ' then faultHere .controlCharacter r
    else readStringFrom (c :: before) sound r
  | .stray _ :: r => readStringFrom before false r
termination_by s => s.length

/-- A string, after its opening quote. -/
def readString : Reader String := readStringFrom [] true

/-- Passes over an escape, after its backslash. -/
def skipEscape : Reader Unit
  | [] => faultHere .eofInString []
  | .stray bytes :: r => faultNext .invalidEscape (.stray bytes :: r)
  | .char c :: r =>
    if c = 'u' then
      match hexUnit r with
      | .error f => .error f
      | .ok (_, r) => .ok ((), r)
    else if (shortEscape? c).isSome then .ok ((), r)
    else faultNext .invalidEscape (.char c :: r)

theorem skipEscape_shorter {s r : List Sym} (h : skipEscape s = .ok ((), r)) :
    r.length < s.length := by
  match s with
  | [] => cases h
  | .stray _ :: _ => cases h
  | .char d :: r₀ =>
    simp only [skipEscape] at h
    split at h
    · split at h
      · cases h
      rename_i hx
      have := hexUnit_shorter hx
      cases h; simp only [List.length_cons]; omega
    split at h
    · cases h; simp only [List.length_cons]; omega
    · cases h

/-- Passes over a string that nobody wants, after its opening quote. -/
def skipString : Reader Unit
  | [] => faultHere .eofInString []
  | .char c :: r =>
    if c = '"' then .ok ((), r)
    else if c = '\\' then
      match h : skipEscape r with
      | .error f => .error f
      | .ok ((), r') =>
        have := skipEscape_shorter h
        skipString r'
    else if c < ' ' then faultHere .controlCharacter (.char c :: r)
    else skipString r
  | .stray _ :: r => skipString r
termination_by s => s.length

/-! ### Numbers -/

/-- The digits at the front of a text. -/
def spanDigits : List Sym → List Char × List Sym
  | .char c :: r =>
    if isDigit c then
      let (ds, r') := spanDigits r
      (c :: ds, r')
    else ([], .char c :: r)
  | r => ([], r)

/-- Whether another digit keeps a number within 64 bits. -/
def fitsDigit (n : Nat) (c : Char) : Bool := 10 * n + digitValue c ≤ maxUnsigned64

/-- The number that the digits of a whole part spell as far as they fit into 64 bits, and how
many digits are left over. -/
def keepWhole (n : Nat) : List Char → Nat × Nat
  | [] => (n, 0)
  | c :: cs => if fitsDigit n c then keepWhole (10 * n + digitValue c) cs else (n, cs.length + 1)

/-- Continues a number with the digits of a fraction as far as they fit into 64 bits; with how
many of them were taken in. -/
def keepFraction (n : Nat) : List Char → Nat × Nat
  | [] => (n, 0)
  | c :: cs =>
    if fitsDigit n c then
      let (m, kept) := keepFraction (10 * n + digitValue c) cs
      (m, kept + 1)
    else (n, 0)

/-- The largest power of ten that a number is scaled by in one step. -/
def maxPower : Nat := 308

/-- Scales a number by a power of ten, a step at a time and rounding in each step. There is no
result where it becomes too large. -/
def scaleByTen : (fuel : Nat) → Binary64 → Int → Option Binary64
  | 0, x, _ => some x
  | fuel + 1, x, e =>
    if e.natAbs ≤ maxPower then
      match Binary64.ofRatio false (Nat.pow 10 e.natAbs) 1 with
      | .finite _ m p =>
        let (num, den) := Binary64.ratio m p
        let y := if 0 ≤ e then x.scaled num den else x.scaled den num
        match y with
        | .infinite _ => none
        | y => some y
      | _ => none
    else if x.isZero then some x
    else if 0 ≤ e then none
    else
      match Binary64.ofRatio false (Nat.pow 10 maxPower) 1 with
      | .finite _ m p =>
        let (num, den) := Binary64.ratio m p
        scaleByTen fuel (x.scaled den num) (e + maxPower)
      | _ => none

/-- The floating-point number of digits that fit into 64 bits and an exponent of ten. Four steps
bring every such number to zero. -/
def realOf? (negative : Bool) (digits : Nat) (exponent : Int) : Option Binary64 :=
  (scaleByTen 5 (Binary64.ofNat digits) exponent).map fun x => if negative then x.neg else x

/-- The floating-point number of digits and an exponent, read up to here. -/
def finishReal (negative : Bool) (digits : Nat) (exponent : Int) : Reader Number
  | r => match realOf? negative digits exponent with
    | some x => .ok (.real x, r)
    | none => faultHere .numberOutOfRange r

/-- The largest exponent that is kept exactly. -/
def maxExponent : Nat := 0x7fffffff

/-- The digits of an exponent, continuing from the number they spell so far; with the digits left
over where they spell more than the largest exponent. -/
def exponentDigits (n : Nat) : List Sym → Except (List Sym) Nat × List Sym
  | .char c :: r =>
    if isDigit c then
      if maxExponent < 10 * n + digitValue c then (.error r, r)
      else exponentDigits (10 * n + digitValue c) r
    else (.ok n, .char c :: r)
  | r => (.ok n, r)

/-- Whether the sign of an exponent is a minus sign, and what comes after it. -/
def exponentSign : List Sym → Bool × List Sym
  | .char '+' :: r => (false, r)
  | .char '-' :: r => (true, r)
  | r => (false, r)

/-- The digits of an exponent after its sign, which end the number. -/
def finishExponent (negative down : Bool) (digits : Nat) (exponent : Int) : Reader Number
  | [] => faultHere .eofInValue []
  | .stray bytes :: r => faultNext .invalidNumber (.stray bytes :: r)
  | .char c :: r =>
    if isDigit c then
      match exponentDigits (digitValue c) r with
      | (.ok e, r) => finishReal negative digits (if down then exponent - e else exponent + e) r
      | (.error left, _) =>
        if digits ≠ 0 ∧ !down then faultHere .numberOutOfRange left
        else .ok (.real (Binary64.zero negative), (spanDigits left).2)
    else faultNext .invalidNumber (.char c :: r)

/-- The exponent of a number after its letter, and the end of the number. -/
def readExponent (negative : Bool) (digits : Nat) (exponent : Int) : Reader Number
  | s => finishExponent negative (exponentSign s).1 digits exponent (exponentSign s).2

/-- The end of a number after its digits, with an exponent or without one. -/
def readPower (negative : Bool) (digits : Nat) (exponent : Int) : Reader Number
  | .char 'e' :: r => readExponent negative digits exponent r
  | .char 'E' :: r => readExponent negative digits exponent r
  | r => finishReal negative digits exponent r

/-- The fraction of a number after its point, and the end of the number. -/
def readFraction (negative : Bool) (digits : Nat) (exponent : Int) (s : List Sym) :
    Except Fault (Number × List Sym) :=
  let (ds, r) := spanDigits s
  if ds = [] then
    match r with
    | [] => faultHere .eofInValue []
    | _ => faultNext .invalidNumber r
  else
    let (n, kept) := keepFraction digits ds
    readPower negative n (exponent - kept) r

/-- A whole number as such where it fits into 64 bits, negative zero and the rest as a
floating-point number. -/
def wholeNumber (negative : Bool) (n : Nat) : Number :=
  if !negative then .integer n
  else if n ≠ 0 ∧ n ≤ 0x8000000000000000 then .integer (-n)
  else .real (Binary64.ofNat n).neg

/-- The end of a number after its whole part, given the number that its first digits spell and how
many more of them there are. -/
def finishNumber (negative : Bool) (n left : Nat) : Reader Number
  | .char '.' :: r => readFraction negative n left r
  | .char 'e' :: r => readExponent negative n left r
  | .char 'E' :: r => readExponent negative n left r
  | r => if left = 0 then .ok (wholeNumber negative n, r) else finishReal negative n left r

/-- A number after its sign. -/
def readNumber (negative : Bool) : Reader Number
  | [] => faultHere .eofInValue []
  | .stray bytes :: r => faultNext .invalidNumber (.stray bytes :: r)
  | .char c :: r =>
    if isDigit c then
      let (ds, rest) := spanDigits (.char c :: r)
      if c = '0' ∧ ds.length ≠ 1 then faultNext .invalidNumber r
      else
        let (n, left) := keepWhole 0 ds
        finishNumber negative n left rest
    else faultNext .invalidNumber (.char c :: r)

/-- Passes over the exponent of a number that nobody wants, after its letter. -/
def skipExponent : Reader Unit
  | s => match spanDigits (exponentSign s).2 with
    | ([], r) => faultNext .invalidNumber r
    | (_, r) => .ok ((), r)

/-- Passes over the end of a number that nobody wants, with an exponent or without one. -/
def skipPower : Reader Unit
  | .char 'e' :: r => skipExponent r
  | .char 'E' :: r => skipExponent r
  | r => .ok ((), r)

/-- Passes over the end of a number that nobody wants, after its whole part. -/
def skipFraction : Reader Unit
  | .char '.' :: r =>
    match spanDigits r with
    | ([], r) => faultNext .invalidNumber r
    | (_, r) => skipPower r
  | r => skipPower r

/-- Passes over a number that nobody wants, after its sign. -/
def skipNumber : Reader Unit
  | s => match spanDigits s with
    | ([], r) => faultNext .invalidNumber r
    | (c :: ds, r) =>
      if c = '0' ∧ ds ≠ [] then faultNext .invalidNumber (s.drop 1) else skipFraction r

end Stagehand.Json
