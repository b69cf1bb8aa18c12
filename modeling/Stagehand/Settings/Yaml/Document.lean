import Stagehand.Settings.Yaml.Text

/-!
# YAML documents
The structure of a document follows from its indentation, or from brackets and braces. What
stands further right than a collection belongs to it. An entry of a mapping is recognised by the
colon that follows its key on the same line.
-/

namespace Stagehand.Settings.Yaml

/-- What is read from a cursor, and the cursor after it. -/
abbrev Read (α : Type) := Cursor → Option (α × Cursor)

/-! ### Properties -/

/-- The name and the tag that a value is given before it. -/
structure Properties where
  anchor : Option String := none
  tag : Option String := none
deriving DecidableEq

/-- The characters of a name, an alias or a tag. -/
def nameChars (cs : List Char) : List Char :=
  cs.takeWhile fun c => !(isSpace c ∨ isBreak c ∨ isFlowMark c)

/-- The properties of a value, on one line. -/
def properties : (fuel : Nat) → Properties → Read Properties
  | fuel + 1, props, p =>
    match p.rest with
    | '&' :: cs =>
      let name := nameChars cs
      if name = [] ∨ props.anchor.isSome then none
      else
        properties fuel { props with anchor := some (String.ofList name) }
          (p.skip (name.length + 1)).skipSpaces
    | '!' :: cs =>
      let tag := '!' :: nameChars cs
      if props.tag.isSome then none
      else
        properties fuel { props with tag := some (String.ofList tag) }
          (p.skip tag.length).skipSpaces
    | _ => some (props, p)
  | 0, _, _ => none

/-- Gives a value its name. -/
def anchored (props : Properties) (n : Node) (p : Cursor) : Node × Cursor :=
  match props.anchor with
  | some name => (n, { p with anchors := (name, n) :: p.anchors })
  | none => (n, p)

/-- The value of a plain text with properties. -/
def plainNode (props : Properties) (cs : List Char) : Option Node :=
  match props.tag with
  | some tag => resolveAs tag cs
  | none => resolve cs

/-- The value that a name was given to. -/
def aliased : Read Node
  | p =>
    match p.rest with
    | '*' :: cs =>
      let name := nameChars cs
      (p.anchors.lookup (String.ofList name)).map fun n => (n, p.skip (name.length + 1))
    | _ => none

/-- Whether nothing else stands on the line. -/
def restIsEmpty (p : Cursor) : Bool :=
  match p.rest with
  | [] => true
  | c :: _ => isBreak c || (c = '#' && p.column ≠ 0)

/-- Adds an entry to a mapping; no key may come twice. -/
def addEntry (es : List (String × Tree)) (key value : Node) : Option (List (String × Tree)) :=
  match key.key with
  | none => none
  | some k => if es.any fun e => e.1 = k then none else some (es ++ [(k, value.tree)])

/-! ### Collections in brackets and braces -/

/-- Goes to the next token inside of brackets or braces, which must not end the document nor be
further left than the collection around them. -/
def nextInFlow (parent : Int) (p : Cursor) : Option Cursor :=
  match nextToken true p with
  | none => none
  | some (crossed, p) => if p.atEnd ∨ (crossed ∧ p.column < parent) then none else some p

/-- Whether a colon separates a key from its value here. After quotes and brackets it need not be
followed by a blank. -/
def atColon (adjacent : Bool) (p : Cursor) : Bool :=
  match p.rest with
  | ':' :: cs => adjacent || atBlank cs || cs.head?.any isFlowMark
  | _ => false

/-- Whether a value that begins here ends with a bracket or a quote of its own. -/
def isClosed (p : Cursor) : Bool := p.rest.head?.any fun c => c ∈ ['"', '\'', '[', '{']

/-- Whether what is next separates the items of a collection or ends it. -/
def atFlowEnd (p : Cursor) : Bool := p.rest.head?.any fun c => c ∈ [',', ']', '}']

mutual

/-- A value inside of brackets or braces. -/
def flowNode (parent : Int) : (fuel : Nat) → Read Node
  | 0, _ => none
  | fuel + 1, p => do
    let (props, p) ← properties 3 {} p
    let p ← nextInFlow parent p
    let (n, p) ← match p.rest with
      | '*' :: _ => if props = {} then aliased p else none
      | '[' :: _ => (flowItems parent fuel [] (p.skip 1)).map fun (ts, p) =>
          (Node.plain (.ofList ts), p)
      | '{' :: _ => (flowEntries parent fuel [] (p.skip 1)).map fun (es, p) =>
          (Node.plain (.ofEntries es), p)
      | '"' :: _ => (quotedText p.rest).map fun (s, rest) => (Node.text s, p.moveTo rest)
      | '\'' :: _ => (quotedText p.rest).map fun (s, rest) => (Node.text s, p.moveTo rest)
      | _ =>
        if atFlowEnd p ∨ atColon false p then (plainNode props []).map fun n => (n, p)
        else do
          let (s, rest) ← plainText true parent p.rest
          let n ← plainNode props s
          some (n, p.moveTo rest)
    some (anchored props n p)

/-- The value after a colon inside of brackets or braces, which may be missing. -/
def flowValue (parent : Int) : (fuel : Nat) → Read Node
  | 0, _ => none
  | fuel + 1, p => do
    let p ← nextInFlow parent p
    if atFlowEnd p then some (.nil, p) else flowNode parent fuel p

/-- The items of a list, after its opening bracket or a comma. An item may be a single entry. -/
def flowItems (parent : Int) : (fuel : Nat) → List Tree → Read (List Tree)
  | 0, _, _ => none
  | fuel + 1, before, p => do
    let p ← nextInFlow parent p
    if p.rest.head? = some ']' then some (before, p.skip 1)
    else if p.rest.head? = some ',' then none
    else
      let (t, p) ← flowItem parent fuel p
      let p ← nextInFlow parent p
      match p.rest with
      | ',' :: _ => flowItems parent fuel (before ++ [t]) (p.skip 1)
      | ']' :: _ => some (before ++ [t], p.skip 1)
      | _ => none

/-- An item of a list. -/
def flowItem (parent : Int) : (fuel : Nat) → Read Tree
  | 0, _ => none
  | fuel + 1, p => do
    let explicit := match p.rest with
      | '?' :: cs => atBlank cs
      | _ => false
    let p ← if explicit then nextInFlow parent (p.skip 1) else some p
    let (key, q) ← flowNode parent fuel p
    let next ← nextInFlow parent q
    if atColon (isClosed p) next then do
      let (value, p) ← flowValue parent fuel (next.skip 1)
      let es ← addEntry [] key value
      some (.ofEntries es, p)
    else if explicit then do
      let es ← addEntry [] key .nil
      some (.ofEntries es, q)
    else some (key.tree, q)

/-- The entries of a mapping, after its opening brace or a comma. -/
def flowEntries (parent : Int) : (fuel : Nat) → List (String × Tree) → Read (List (String × Tree))
  | 0, _, _ => none
  | fuel + 1, before, p => do
    let p ← nextInFlow parent p
    if p.rest.head? = some '}' then some (before, p.skip 1)
    else if p.rest.head? = some ',' then none
    else
      let explicit := match p.rest with
        | '?' :: cs => atBlank cs
        | _ => false
      let p ← if explicit then nextInFlow parent (p.skip 1) else some p
      let (key, q) ← flowNode parent fuel p
      let next ← nextInFlow parent q
      let (value, p) ←
        if atColon (isClosed p) next then flowValue parent fuel (next.skip 1)
        else some (Node.nil, q)
      let es ← addEntry before key value
      let p ← nextInFlow parent p
      match p.rest with
      | ',' :: _ => flowEntries parent fuel es (p.skip 1)
      | '}' :: _ => some (es, p.skip 1)
      | _ => none

end

/-! ### Collections by indentation -/

/-- Whether an item of a list begins here. -/
def atDash (p : Cursor) : Bool :=
  match p.rest with
  | '-' :: cs => atBlank cs
  | _ => false

/-- Whether the key of an entry is marked as such here. -/
def atQuestion (p : Cursor) : Bool :=
  match p.rest with
  | '?' :: cs => atBlank cs
  | _ => false

/-- The bound on the steps of a reader. -/
def fuelFor (p : Cursor) : Nat := 8 * p.rest.length + 16

/-- A key with the colon after it, on one line. -/
def blockKey (parent : Int) : Read Node
  | p => do
    let (props, q) ← properties 3 {} p
    let (n, r) ← match q.rest with
      | '*' :: _ => if props = {} then aliased q else none
      | '"' :: _ => (quotedText q.rest).map fun (s, rest) => (Node.text s, q.moveTo rest)
      | '\'' :: _ => (quotedText q.rest).map fun (s, rest) => (Node.text s, q.moveTo rest)
      | '[' :: _ => flowNode parent (fuelFor q) q
      | '{' :: _ => flowNode parent (fuelFor q) q
      | _ => do
        let (s, rest) ← plainWord false q.rest
        let n ← plainNode props s
        some (n, q.moveTo rest)
    let taken := p.rest.take (p.rest.length - r.rest.length)
    if taken.any isBreak then none
    else
      let (n, r) := anchored props n r
      let r := r.skipSpaces
      match r.rest with
      | ':' :: cs => if atBlank cs then some (n, r.skip 1) else none
      | _ => none

/-- A value that is no collection by indentation, after its properties. -/
def blockLeaf (parent : Int) (props : Properties) : Read Node
  | p =>
    match p.rest with
    | '*' :: _ => if props = {} then aliased p else none
    | '"' :: _ => (quotedText p.rest).map fun (s, rest) => (Node.text s, p.moveTo rest)
    | '\'' :: _ => (quotedText p.rest).map fun (s, rest) => (Node.text s, p.moveTo rest)
    | '[' :: _ => flowNode parent (fuelFor p) p
    | '{' :: _ => flowNode parent (fuelFor p) p
    | '|' :: cs => (blockText false parent cs).map fun (s, rest) => (Node.text s, p.moveTo rest)
    | '>' :: cs => (blockText true parent cs).map fun (s, rest) => (Node.text s, p.moveTo rest)
    | cs => do
      let (s, rest) ← plainText false parent cs
      let n ← plainNode props s
      some (n, p.moveTo rest)

mutual

/-- A value in the collection at column `parent`. Collections may begin here if `fresh`. A list
that is the value of an entry need not be indented, which `level` says. -/
def blockNode : (fuel : Nat) → (parent : Int) → (fresh level : Bool) → Read Node
  | 0, _, _, _, _ => none
  | fuel + 1, parent, fresh, level, p =>
    if atDash p then
      if fresh then
        (blockItems fuel p.column [] p).map fun (ts, p) => (Node.plain (.ofList ts), p)
      else none
    else if fresh ∧ (atQuestion p ∨ (blockKey parent p).isSome) then
      (blockEntries fuel p.column [] p).map fun (es, p) => (Node.plain (.ofEntries es), p)
    else do
      let (props, p) ← properties 3 {} p
      let (n, p) ←
        if props ≠ {} ∧ restIsEmpty p then blockValue fuel parent level true props p
        else blockLeaf parent props p
      some (anchored props n p)

/-- A value that may follow on the same line or on the next one, or be missing. Without a line
change, a collection may begin only if it is `compact`. -/
def blockValue : (fuel : Nat) → (parent : Int) → (level compact : Bool) → Properties → Read Node
  | 0, _, _, _, _, _ => none
  | fuel + 1, parent, level, compact, props, p => do
    let (crossed, q) ← nextToken false p
    if q.atEnd then (plainNode props []).map fun n => (n, p)
    else if !crossed then blockNode fuel parent compact level q
    else if parent < q.column ∨ (level ∧ parent = q.column ∧ atDash q) then
      blockNode fuel parent true level q
    else (plainNode props []).map fun n => (n, p)

/-- The items of a list at a column. -/
def blockItems : (fuel column : Nat) → List Tree → Read (List Tree)
  | 0, _, _, _ => none
  | fuel + 1, column, before, p => do
    let (n, p) ← blockValue fuel column false true {} (p.skip 1)
    let items := before ++ [n.tree]
    let (crossed, q) ← nextToken false p
    if q.atEnd then some (items, p)
    else if !crossed then none
    else if q.column = column ∧ atDash q then blockItems fuel column items q
    else if column < q.column then none
    else some (items, p)

/-- The entries of a mapping at a column. -/
def blockEntries : (fuel column : Nat) → List (String × Tree) → Read (List (String × Tree))
  | 0, _, _, _ => none
  | fuel + 1, column, before, p => do
    let (key, value, p) ← blockEntry fuel column p
    let es ← addEntry before key value
    let (crossed, q) ← nextToken false p
    if q.atEnd ∨ q.column < column then some (es, p)
    else if crossed ∧ q.column = column ∧ !atDash q then blockEntries fuel column es q
    else none

/-- An entry of a mapping at a column. -/
def blockEntry : (fuel column : Nat) → Cursor → Option (Node × Node × Cursor)
  | 0, _, _ => none
  | fuel + 1, column, p =>
    if atQuestion p then do
      let (key, p) ← blockValue fuel column false true {} (p.skip 1)
      let (_, q) ← nextToken false p
      let colon := match q.rest with
        | ':' :: cs => q.column = column && atBlank cs
        | _ => false
      if colon then do
        let (value, p) ← blockValue fuel column false true {} (q.skip 1)
        some (key, value, p)
      else some (key, .nil, p)
    else do
      let (key, p) ← blockKey column p
      let (value, p) ← blockValue fuel column true false {} p
      some (key, value, p)

end

/-! ### Documents -/

/-- What is left after the directives before a document, of which there are at most `fuel`; with
whether there were any. -/
def skipDirectives : (fuel : Nat) → (any : Bool) → Cursor → Option (Bool × Cursor)
  | 0, _, _ => none
  | fuel + 1, any, p => do
    let (_, q) ← nextToken false p
    match q.rest with
    | '%' :: _ => if q.column = 0 then skipDirectives fuel true q.skipComment else some (any, q)
    | _ => some (any, q)

/-- Whether nothing follows the end of a document but blanks and more marks of its end. -/
def onlyEnds : (fuel : Nat) → Cursor → Bool
  | 0, _ => false
  | fuel + 1, p =>
    match nextToken false p with
    | none => false
    | some (_, q) =>
      match q.rest with
      | [] => true
      | '.' :: '.' :: '.' :: cs => q.column = 0 && atBlank cs && onlyEnds fuel (q.skip 3)
      | _ => false

/-- The value of the only document of a text; without a document, an empty table. -/
def read (text : String) : Option Tree := do
  let start : Cursor := { rest := text.toList }
  let fuel := fuelFor start
  let (directives, p) ← skipDirectives fuel false start
  let marked := p.column = 0 ∧ isMarker p.rest ∧ p.rest.head? = some '-'
  if directives ∧ !marked then none
  else if p.atEnd ∧ !marked then if onlyEnds fuel p then some (.ofEntries []) else none
  else
    let (n, p) ←
      if marked then blockValue fuel (-1) false false {} (p.skip 3)
      else blockNode fuel (-1) true false p
    if onlyEnds fuel p then some n.tree else none

end Stagehand.Settings.Yaml
