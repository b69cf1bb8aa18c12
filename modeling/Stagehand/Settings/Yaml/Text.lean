import Stagehand.Settings.Yaml.Cursor

/-!
# Texts in YAML
Quoted, plain and block texts. A text may go on over several lines: a single line break between
two lines counts as a space, and of more of them all but one are kept.
-/

namespace Stagehand.Settings.Yaml

/-! ### Folding -/

/-- How many line breaks stand here, with blanks between them, and what is left after the blanks
of the last line. -/
def breaksFrom : (fuel : Nat) → (count : Nat) → List Char → Nat × List Char
  | 0, count, cs => (count, cs)
  | fuel + 1, count, cs =>
    let cs := cs.dropWhile isSpace
    match breakLine cs with
    | some cs => breaksFrom fuel (count + 1) cs
    | none => (count, cs)

/-- What a number of line breaks counts as. -/
def folded (count : Nat) : List Char :=
  if count = 1 then [' '] else List.replicate (count - 1) '\n'

/-- A text, backwards, without the blanks at its end. -/
def dropSpaces (before : List Char) : List Char := before.dropWhile isSpace

/-! ### Quoted texts -/

/-- The character of an escape by a letter. -/
def escaped? (c : Char) : Option Char :=
  if c = '0' then some '\u0000'
  else if c = 'a' then some '\x07'
  else if c = 'b' then some '\x08'
  else if c = 't' ∨ c = '\t' then some '\t'
  else if c = 'n' then some '\n'
  else if c = 'v' then some '\x0b'
  else if c = 'f' then some '\x0c'
  else if c = 'r' then some '\r'
  else if c = 'e' then some '\x1b'
  else if c = 'N' then some '\u0085'
  else if c = '_' then some '\u00a0'
  else if c = 'L' then some '\u2028'
  else if c = 'P' then some '\u2029'
  else if c ∈ [' ', '"', '/', '\\', '\''] then some c
  else none

/-- What an escape stands for, after its backslash. -/
def escape : Scan (List Char)
  | [] => none
  | 'x' :: cs => (scanCodePoint 2 cs).map fun (c, cs) => ([c], cs)
  | 'u' :: cs => (scanCodePoint 4 cs).map fun (c, cs) => ([c], cs)
  | 'U' :: cs => (scanCodePoint 8 cs).map fun (c, cs) => ([c], cs)
  | c :: cs =>
    match breakLine (c :: cs) with
    | some cs =>
      let (more, rest) := breaksFrom (cs.length + 1) 0 cs
      some (List.replicate more '\n', rest)
    | none => (escaped? c).map fun d => ([d], cs)

/-- The rest of a text between double quotes, of which `before` was read, backwards. Blanks that
were `kept` by an escape are not dropped at the end of a line. -/
def doubleFrom : (fuel : Nat) → (kept before : List Char) → Scan (List Char)
  | fuel + 1, kept, before, c :: cs =>
    if c = '"' then some ((before ++ kept).reverse, cs)
    else if c = '\\' then
      match escape cs with
      | some (ds, cs) => doubleFrom fuel (ds ++ before ++ kept) [] cs
      | none => none
    else if isBreak c then
      let (count, rest) := breaksFrom (cs.length + 2) 0 (c :: cs)
      doubleFrom fuel (folded count ++ dropSpaces before ++ kept) [] rest
    else doubleFrom fuel kept (c :: before) cs
  | _, _, _, _ => none

/-- The rest of a text between single quotes, of which `before` was read, backwards. A quote in it
is written twice. -/
def singleFrom : (fuel : Nat) → (before : List Char) → Scan (List Char)
  | fuel + 1, before, '\'' :: '\'' :: cs => singleFrom fuel ('\'' :: before) cs
  | _ + 1, before, '\'' :: cs => some (before.reverse, cs)
  | fuel + 1, before, c :: cs =>
    if isBreak c then
      let (count, rest) := breaksFrom (cs.length + 2) 0 (c :: cs)
      singleFrom fuel (folded count ++ dropSpaces before) rest
    else singleFrom fuel (c :: before) cs
  | _, _, _ => none

/-- A text in quotes. -/
def quotedText : Scan (List Char)
  | '"' :: cs => doubleFrom (cs.length + 1) [] [] cs
  | '\'' :: cs => singleFrom (cs.length + 1) [] cs
  | _ => none

/-! ### Plain texts -/

/-- Whether a plain text may begin here. -/
def startsPlain (inFlow : Bool) : List Char → Bool
  | [] => false
  | c :: cs =>
    if isSpace c ∨ isBreak c ∨ isFlowMark c then false
    else if c ∈ ['#', '&', '*', '!', '|', '>', '\'', '"', '%', '@'] ∨ c.toNat = 0x60 then false
    else if c ∈ ['-', '?', ':'] then
      !atBlank cs && !(inFlow && (cs.head?.any isFlowMark))
    else true

/-- What a line has of a plain text, backwards after `before`; `spaced` says whether a blank comes
right before. -/
def plainLine (inFlow : Bool) (before : List Char) (spaced : Bool) :
    List Char → List Char × List Char
  | [] => (before, [])
  | c :: cs =>
    let colon := c = ':' ∧ (atBlank cs ∨ (inFlow ∧ cs.head?.any isFlowMark))
    if isBreak c ∨ colon ∨ (c = '#' ∧ spaced) ∨ (inFlow ∧ isFlowMark c) then (before, c :: cs)
    else plainLine inFlow (c :: before) (isSpace c) cs

/-- Whether a line that is indented this far may go on with a plain text. -/
def continuesPlain (inFlow : Bool) (parent : Int) (column : Nat) (rest : List Char) : Bool :=
  parent < column && rest ≠ [] && rest.head? != some '#' && !(column = 0 && isMarker rest) &&
    !(inFlow && rest.head?.any isFlowMark)

/-- Gives the blanks at the end of what was read, backwards, back to the rest. -/
def giveBack (read : List Char × List Char) : List Char × List Char :=
  (dropSpaces read.1, (read.1.takeWhile isSpace).reverse ++ read.2)

/-- The rest of a plain text, of which `before` was read, backwards. -/
def plainFrom (inFlow : Bool) (parent : Int) : (fuel : Nat) → (before : List Char) →
    List Char → List Char × List Char
  | 0, before, cs => (before, cs)
  | fuel + 1, before, cs =>
    let (line, rest) := giveBack (plainLine inFlow before (before.head?.any isSpace) cs)
    let (count, next) := breaksFrom (rest.length + 1) 0 rest
    let taken := rest.take (rest.length - next.length)
    let column := (taken.reverse.takeWhile fun c => !isBreak c).length
    if 0 < count ∧ continuesPlain inFlow parent column next then
      if (plainLine inFlow [] false next).1 = [] then (line, rest)
      else plainFrom inFlow parent fuel (folded count ++ line) next
    else (line, rest)

/-- A plain text that goes on over lines indented further than `parent`. -/
def plainText (inFlow : Bool) (parent : Int) (cs : List Char) : Option (List Char × List Char) :=
  if startsPlain inFlow cs then
    let (before, rest) := plainFrom inFlow parent (cs.length + 1) [] cs
    some (before.reverse, rest)
  else none

/-- A plain text in one line. -/
def plainWord (inFlow : Bool) (cs : List Char) : Option (List Char × List Char) :=
  if startsPlain inFlow cs then
    let (before, rest) := giveBack (plainLine inFlow [] false cs)
    some (before.reverse, rest)
  else none

/-! ### Block texts -/

/-- What becomes of the line breaks at the end of a block text. -/
inductive Chomping
  | strip
  | clip
  | keep
deriving DecidableEq

/-- How a block text is written. -/
structure BlockStyle where
  fold : Bool
  chomping : Chomping := .clip
  indent : Option Nat := none

/-- The indicators that follow the mark of a block text, each at most once. -/
def blockIndicators (s : BlockStyle) : List Char → BlockStyle × List Char
  | '+' :: cs =>
    if s.chomping = .clip then blockIndicators { s with chomping := .keep } cs else (s, '+' :: cs)
  | '-' :: cs =>
    if s.chomping = .clip then blockIndicators { s with chomping := .strip } cs else (s, '-' :: cs)
  | c :: cs =>
    if s.indent = none ∧ isDigit c ∧ c ≠ '0' then
      blockIndicators { s with indent := some (digitValue c) } cs
    else (s, c :: cs)
  | [] => (s, [])

/-- What is left after the first line of a block text, which may have a comment only. -/
def endHeader (cs : List Char) : Option (List Char) :=
  let rest := cs.dropWhile isSpace
  let rest :=
    if rest.head? = some '#' ∧ rest.length < cs.length then rest.dropWhile fun c => !isBreak c
    else rest
  match rest with
  | [] => some []
  | cs => breakLine cs

/-- How far a line is indented. -/
def indentOf (cs : List Char) : Nat := (cs.takeWhile (· == ' ')).length

/-- Whether a line holds nothing but spaces. -/
def isEmptyLine (cs : List Char) : Bool :=
  match cs.dropWhile (· == ' ') with
  | [] => true
  | c :: _ => isBreak c

/-- How far a block text is indented: as far as its first line with something on it. -/
def findIndent : (fuel : Nat) → List Char → Nat
  | 0, _ => 0
  | fuel + 1, cs =>
    if isEmptyLine cs then
      match breakLine (cs.dropWhile (· == ' ')) with
      | some cs => findIndent fuel cs
      | none => 0
    else indentOf cs

/-- The lines of a block text without their indentation, and what is left after them. -/
def blockLines (indent : Nat) : (fuel : Nat) → List Char → List (List Char) × List Char
  | 0, cs => ([], cs)
  | fuel + 1, cs =>
    if cs = [] ∨ (!isEmptyLine cs ∧ indentOf cs < indent) ∨ (indent = 0 ∧ isMarker cs) then ([], cs)
    else
      let line := (cs.drop (min indent (indentOf cs))).takeWhile fun c => !isBreak c
      match breakLine (cs.dropWhile fun c => !isBreak c) with
      | some cs =>
        let (more, rest) := blockLines indent fuel cs
        (line :: more, rest)
      | none => ([line], [])

/-- Lines with the breaks between them. Where lines are folded, those that begin with a blank and
their neighbours keep their breaks. `empty` counts the empty lines right before. -/
def joinBlock (fold : Bool) (last : List Char) (empty : Nat) : List (List Char) → List Char
  | [] => []
  | [] :: lines => joinBlock fold last (empty + 1) lines
  | line :: lines =>
    let loose := line.head?.any isSpace || last.head?.any isSpace
    let between :=
      if last = [] then List.replicate empty '\n'
      else if fold && !loose then (if empty = 0 then [' '] else List.replicate empty '\n')
      else List.replicate (empty + 1) '\n'
    between ++ line ++ joinBlock fold line 0 lines

/-- A block text, after its mark; `parent` is the column of the collection it stands in. -/
def blockText (fold : Bool) (parent : Int) (cs : List Char) : Option (List Char × List Char) :=
  let (style, cs) := blockIndicators { fold } cs
  match endHeader cs with
  | none => none
  | some cs =>
    let least := (parent + 1).toNat
    let indent := match style.indent with
      | some n => parent.toNat + n
      | none => max (max least 1) (findIndent (cs.length + 1) cs)
    let (lines, rest) := blockLines indent (cs.length + 1) cs
    let body := lines.reverse.dropWhile (· == []) |>.reverse
    let after := lines.length - body.length
    let text := joinBlock fold [] 0 body
    let final := match style.chomping with
      | .strip => []
      | .clip => if body = [] then [] else ['\n']
      | .keep => if body = [] then List.replicate after '\n' else List.replicate (after + 1) '\n'
    some (text ++ final, rest)

end Stagehand.Settings.Yaml
