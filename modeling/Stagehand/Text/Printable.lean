/-!
# Printable text
What a terminal would print of a text: control characters are left out, and so are the sequences
by which a text would control the terminal. White space stays.
-/

namespace Stagehand

/-- Whether a control character is white space that is printed. -/
def isPrintedControl (c : Char) : Bool := c ∈ ['\t', '\n', '\x0c', '\r']

/-- Where a terminal is in a text: in plain text, or in a sequence of some kind. -/
inductive TerminalState
  | ground
  /-- After the escape character. -/
  | escape
  /-- In a sequence that ends with its first letter. -/
  | control
  /-- In a string that ends with the escape character or a bell. -/
  | command
  /-- In a string that ends with the escape character only. -/
  | string
deriving DecidableEq

namespace TerminalState

/-- The state after a character, and whether the character is printed. -/
def step (s : TerminalState) (c : Char) : TerminalState × Bool :=
  if c = '\x1b' then (escape, false)
  else if c = '\x18' ∨ c = '\x1a' then (ground, false)
  else if '\x7f' < c then (ground, true)
  else
    match s with
    | ground => (ground, (' ' ≤ c ∧ c ≠ '\x7f') ∨ isPrintedControl c)
    | escape =>
      if isPrintedControl c then (ground, true)
      else if c < '0' ∨ c = '\x7f' then (escape, false)
      else if c = '[' then (control, false)
      else if c = ']' then (command, false)
      else if c = 'P' ∨ c = 'X' ∨ c = '^' ∨ c = '_' then (string, false)
      else (ground, false)
    | control =>
      if isPrintedControl c then (ground, true)
      else if '@' ≤ c ∧ c ≤ '~' then (ground, false)
      else (control, false)
    | command => (if c = '\x07' then ground else command, false)
    | string => (string, false)

end TerminalState

/-- The printed characters of a text, in a state. -/
def printableFrom (s : TerminalState) : List Char → List Char
  | [] => []
  | c :: cs =>
    let (s, isPrinted) := s.step c
    if isPrinted then c :: printableFrom s cs else printableFrom s cs

/-- A text without what is not printed. -/
def printable (text : String) : String := String.ofList (printableFrom .ground text.toList)

end Stagehand
