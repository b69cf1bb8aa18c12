import Stagehand.Text.Normal
import Stagehand.Url.DomainTable
import Stagehand.Url.Punycode

/-!
# Domain names
A domain name in any script, brought into the form that is looked up: lower case, normal form, and
each label that needs other characters than those of the first 128 in Punycode. A name is refused
where a label could not be told apart from another one, or could not be displayed in order.
-/

namespace Stagehand.Domain

/-! ### Characters -/

/-- The characters of the first 128 that no name may contain. -/
def isForbidden (c : Char) : Bool :=
  c ≤ ' ' ∨ c = '\x7f' ∨ c ∈ ['%', '#', '/', ':', '<', '>', '?', '@', '[', '\\', ']', '^', '|']

/-- Whether a character may stand in a name as it is. -/
def isValid (c : Char) : Bool :=
  if c < '\u0080' then !isForbidden c ∧ ¬('A' ≤ c ∧ c ≤ 'Z') else validCodes.contains c

/-- What a character of a name becomes, if it is allowed at all. -/
def mapped? (c : Char) : Option (List Char) :=
  if c < '\u0080' then some [c.toLower]
  else if validCodes.contains c then some [c]
  else if ignoredCodes.contains c then some []
  else mappedForms.find? c

/-! ### Directions -/

/-- The part of a character in the direction of a text. -/
inductive Direction
  | left
  | right
  | arabic
  | arabicNumber
  | number
  | separator
  | mark
  | neutral
deriving DecidableEq

/-- The direction of a character. -/
def direction (c : Char) : Direction :=
  match directionLabels.label c with
  | [] => .left
  | ['R'] => .right
  | ['A', 'L'] => .arabic
  | ['A', 'N'] => .arabicNumber
  | ['E', 'N'] => .number
  | ['E', 'S'] | ['C', 'S'] | ['E', 'T'] => .separator
  | ['N', 'S', 'M'] => .mark
  | _ => .neutral

/-- Whether a direction makes a name one that runs from right to left in places. -/
def Direction.isRightward (d : Direction) : Bool := d = .right ∨ d = .arabic ∨ d = .arabicNumber

/-- Whether a label can be displayed in one order only, next to labels of the other direction. -/
def isOrdered (label : List Char) : Bool :=
  let ds := label.map direction
  let ending := (ds.reverse.dropWhile (· == .mark)).head?
  match ds with
  | [] => true
  | .left :: _ =>
    ds.all (fun d => !d.isRightward) && (ending == some .left || ending == some .number)
  | d :: _ =>
    (d == .right || d == .arabic) && ds.all (· != .left) &&
      (ending == some .right || ending == some .arabic || ending == some .number ||
        ending == some .arabicNumber) &&
      !(ds.contains .number && ds.contains .arabicNumber)

/-! ### Joiners -/

/-- The class of the marks that silence a vowel; after them a joiner changes the form. -/
def silencer : Nat := 9

/-- Whether the nearest character that is not transparent joins in one of some ways. -/
def joins (ways : List (List Char)) (cs : List Char) : Bool :=
  match cs.dropWhile fun c => joiningLabels.label c = ['T'] with
  | [] => false
  | c :: _ => joiningLabels.label c ∈ ways

/-- Whether every joiner of a label makes a visible difference. `before` is what precedes, the
nearest first. -/
def joinersShow (before : List Char) : List Char → Bool
  | [] => true
  | c :: cs =>
    let silenced := match before with
      | [] => false
      | b :: _ => combiningClass b = silencer
    let shows :=
      if c = '\u200c' then silenced || (joins [['L'], ['D']] before && joins [['R'], ['D']] cs)
      else if c = '\u200d' then silenced
      else true
    shows && joinersShow (c :: before) cs

/-! ### Labels -/

/-- How a label in Punycode begins. -/
def punycodeMark : List Char := ['x', 'n', '-', '-']

/-- The longest label that is written in Punycode. -/
def maxEncoded : Nat := 1000

/-- The longest label that is read from Punycode. -/
def maxDecoded : Nat := 2000

/-- Whether all characters are among the first 128. -/
def isPlain (cs : List Char) : Bool := cs.all (· < '\u0080')

/-- The label that a label in Punycode stands for. It must need Punycode, and be in the form that
a label not in Punycode is brought into. -/
def decoded? (code : List Char) : Option (List Char) :=
  if code.length ≤ maxDecoded then
    (Punycode.decode? code).filter fun label =>
      !isPlain label && label.all isValid && normalForm label == label
  else none

/-- A label in the characters that people see. -/
def shown? (label : List Char) : Option (List Char) :=
  if punycodeMark.isPrefixOf label then decoded? (label.drop punycodeMark.length) else some label

/-- Whether a label is well formed apart from its direction. -/
def isLabel (label : List Char) : Bool :=
  (label.head?.all fun c => !markCodes.contains c) && joinersShow [] label

/-- A label as it is looked up. -/
def written? (label : List Char) : Option (List Char) :=
  if isPlain label then some label
  else if label.length ≤ maxEncoded then some (punycodeMark ++ Punycode.encode label)
  else none

/-! ### Names -/

/-- A name with its characters mapped, in normal form, which has none that are forbidden. -/
def normal? (name : List Char) : Option (List Char) :=
  ((name.mapM mapped?).map fun cs => normalForm cs.flatten).filter fun cs =>
    cs.all fun c => !isForbidden c

/-- The labels of a name in the characters that people see. -/
def labels? (name : List Char) : Option (List (List Char)) := do
  let cs ← normal? name
  let labels ← (cutAt '.' cs).mapM shown?
  if labels.all isLabel &&
      (labels.all isOrdered || labels.all fun l => l.all fun c => !(direction c).isRightward) then
    some labels
  else none

/-- A name as it is looked up. -/
def lookup? (name : List Char) : Option (List Char) := do
  let labels ← labels? name
  let written ← labels.mapM written?
  return (['.'] : List Char).intercalate written

end Stagehand.Domain
