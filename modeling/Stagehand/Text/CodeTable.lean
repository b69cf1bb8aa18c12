/-!
# Tables of code points
A property of characters that only a list of code points can describe is kept as text: words of
hexadecimal numbers, in ascending order. This module reads such text into sorted arrays and
searches them by bisection.
-/

namespace Stagehand

/-- The value of a hexadecimal digit; anything else counts as zero. -/
def hexDigit (c : Char) : Nat :=
  if '0' ≤ c ∧ c ≤ '9' then c.toNat - '0'.toNat
  else if 'a' ≤ c ∧ c ≤ 'f' then c.toNat - 'a'.toNat + 10
  else if 'A' ≤ c ∧ c ≤ 'F' then c.toNat - 'A'.toNat + 10
  else 0

/-- The number that hexadecimal digits spell. -/
def hexNumber (digits : List Char) : Nat :=
  digits.foldl (fun n c => 16 * n + hexDigit c) 0

/-- Cuts a text at every character that satisfies `p`; there is always at least one piece. -/
def cutWhere (p : Char → Bool) : List Char → List (List Char)
  | [] => [[]]
  | c :: cs =>
    if p c then [] :: cutWhere p cs
    else match cutWhere p cs with
      | [] => [[c]]
      | piece :: pieces => (c :: piece) :: pieces

/-- Cuts a text at every occurrence of a character. -/
def cutAt (sep : Char) : List Char → List (List Char) := cutWhere (· == sep)

/-- The words of a table, which blanks and line ends separate. -/
def tableWords (text : String) : List (List Char) :=
  (cutWhere (fun c => c == ' ' || c == '\n') text.toList).filter (fun w => !w.isEmpty)

/-- `lo-hi`, or `lo` alone for a range of one. -/
def codeRange (word : List Char) : Nat × Nat :=
  match cutAt '-' word with
  | [lo, hi] => (hexNumber lo, hexNumber hi)
  | lo :: _ => (hexNumber lo, hexNumber lo)
  | [] => (0, 0)

/-- The last entry, among those from `lo` up to `hi`, whose key is at most `n`. -/
def lastAtMost? {α : Type} (entries : Array (Nat × α)) (n lo hi : Nat) : Option (Nat × α) :=
  if lo < hi then
    let mid := (lo + hi) / 2
    match entries[mid]? with
    | none => none
    | some (k, a) =>
      if k ≤ n then
        match lastAtMost? entries n (mid + 1) hi with
        | none => some (k, a)
        | found => found
      else lastAtMost? entries n lo mid
  else none
termination_by hi - lo

/-! ### Sets of code points -/

/-- A set of code points: ranges in ascending order, each as its first and last member. -/
structure CodeSet where
  ranges : Array (Nat × Nat)

namespace CodeSet

/-- Reads a set from its table text. -/
def ofTable (text : String) : CodeSet :=
  ⟨((tableWords text).map codeRange).toArray⟩

/-- Whether the code point of `c` is in the set. -/
def contains (s : CodeSet) (c : Char) : Bool :=
  match lastAtMost? s.ranges c.toNat 0 s.ranges.size with
  | none => false
  | some (_, hi) => c.toNat ≤ hi

end CodeSet

/-! ### Maps from code points -/

/-- What a range of code points is sent to: sequences, in the order of a range's members, every
`stride` of which has an image. -/
structure CodeRun where
  hi : Nat
  stride : Nat
  image : List Nat

/-- A map from code points to sequences of code points. -/
structure CodeMap where
  runs : Array (Nat × CodeRun)

namespace CodeMap

/-- An entry `lo-hi/stride=image`; the range may be a single number and the stride left out. -/
def entry (word : List Char) : Nat × CodeRun :=
  match cutAt '=' word with
  | [key, image] =>
    let images := (cutAt ',' image).map hexNumber
    match cutAt '/' key with
    | [range, stride] =>
      let (lo, hi) := codeRange range
      (lo, ⟨hi, hexNumber stride, images⟩)
    | _ =>
      let (lo, hi) := codeRange key
      (lo, ⟨hi, 1, images⟩)
  | _ => (0, ⟨0, 1, [0]⟩)

/-- Reads a map from its table text. -/
def ofTable (text : String) : CodeMap :=
  ⟨((tableWords text).map entry).toArray⟩

/-- The image of `c`. Within a range a single image moves along with the members. -/
def find? (m : CodeMap) (c : Char) : Option (List Char) :=
  match lastAtMost? m.runs c.toNat 0 m.runs.size with
  | none => none
  | some (lo, run) =>
    let step := c.toNat - lo
    if c.toNat ≤ run.hi ∧ step % run.stride = 0 then
      some (match run.image with
        | [n] => [Char.ofNat (n + step)]
        | ns => ns.map Char.ofNat)
    else none

end CodeMap

/-! ### Labels of code points -/

/-- A label for each of some code points: ranges in ascending order with their labels. -/
structure CodeLabels where
  runs : Array (Nat × Nat × List Char)

namespace CodeLabels

/-- An entry `lo-hi=label`. -/
def entry (word : List Char) : Nat × Nat × List Char :=
  match cutAt '=' word with
  | [key, label] =>
    let (lo, hi) := codeRange key
    (lo, hi, label)
  | _ => (0, 0, [])

/-- Reads labels from their table text. -/
def ofTable (text : String) : CodeLabels :=
  ⟨((tableWords text).map entry).toArray⟩

/-- The label of `c`, which is empty where there is none. -/
def label (t : CodeLabels) (c : Char) : List Char :=
  match lastAtMost? t.runs c.toNat 0 t.runs.size with
  | none => []
  | some (_, hi, label) => if c.toNat ≤ hi then label else []

end CodeLabels

end Stagehand
