import Stagehand.Number.Decimal
import Stagehand.Settings.Tree
import Stagehand.Text.Radix

/-!
# RON
Values in an object notation with structures `(name: value)`, tuples, maps, lists and options.
The names of structures carry no meaning here.
-/

namespace Stagehand.Settings.Ron

/-! ### Blanks -/

/-- Whether a character is blank. -/
def isSpace (c : Char) : Bool :=
  ('\t' ≤ c ∧ c ≤ '\r') ∨ c ∈ [' ', '\u0085', '\u200e', '\u200f', '\u2028', '\u2029']

/-- What is left after a comment that may hold others, `depth` of which are open. -/
def skipBlock : (fuel depth : Nat) → List Char → Option (List Char)
  | fuel + 1, depth, '*' :: '/' :: cs =>
    if depth ≤ 1 then some cs else skipBlock fuel (depth - 1) cs
  | fuel + 1, depth, '/' :: '*' :: cs => skipBlock fuel (depth + 1) cs
  | fuel + 1, depth, _ :: cs => skipBlock fuel depth cs
  | _, _, _ => none

/-- What is left after blanks and comments, of which there are at most `fuel`. -/
def skipFrom : (fuel : Nat) → List Char → Option (List Char)
  | 0, cs => some cs
  | fuel + 1, cs =>
    match cs.dropWhile isSpace with
    | '/' :: '/' :: cs => skipFrom fuel (cs.dropWhile (· != '\n'))
    | '/' :: '*' :: cs => (skipBlock (cs.length + 1) 1 cs).bind (skipFrom fuel)
    | cs => some cs

/-- What is left after blanks and comments. -/
def skip (cs : List Char) : Option (List Char) := skipFrom (cs.length + 1) cs

/-! ### Names and strings -/

/-- Whether a name may begin with a character. Beyond the first 128 characters all that are not
blank may stand in names. -/
def startsName (c : Char) : Bool :=
  ('a' ≤ c ∧ c ≤ 'z') ∨ ('A' ≤ c ∧ c ≤ 'Z') ∨ c = '_' ∨ ('\u0080' ≤ c ∧ !isSpace c)

/-- Whether a character may stand in a name. -/
def isNameChar (c : Char) : Bool := startsName c ∨ isDigit c

/-- A name; one that could be mistaken for something else is marked by `r#`. -/
def name : Scan String
  | [] => none
  | 'r' :: '#' :: c :: cs =>
    if isNameChar c then
      some (String.ofList (c :: cs.takeWhile isNameChar), cs.dropWhile isNameChar)
    else none
  | c :: cs =>
    if startsName c then
      match c, cs.takeWhile isNameChar, cs.dropWhile isNameChar with
      | 'r', [], '"' :: _ => none
      | 'b', [], '"' :: _ => none
      | 'b', [], '\'' :: _ => none
      | 'b', ['r'], '"' :: _ => none
      | _, more, rest => some (String.ofList (c :: more), rest)
    else none

/-- A character named by up to six hexadecimal digits in braces. -/
def bracedCodePoint : Scan Char
  | '{' :: cs =>
    let digits := cs.takeWhile (· != '}')
    if 6 < digits.length then none
    else
      match (ofRadix? 16 digits).bind character?, cs.dropWhile (· != '}') with
      | some c, _ :: cs => some (c, cs)
      | _, _ => none
  | _ => none

/-- The character of an escape, after its backslash. -/
def escape : Scan Char
  | 'n' :: cs => some ('\n', cs)
  | 'r' :: cs => some ('\r', cs)
  | 't' :: cs => some ('\t', cs)
  | '0' :: cs => some ('\u0000', cs)
  | '\\' :: cs => some ('\\', cs)
  | '"' :: cs => some ('"', cs)
  | '\'' :: cs => some ('\'', cs)
  | 'x' :: cs => scanCodePoint 2 cs
  | 'u' :: cs => bracedCodePoint cs
  | _ => none

/-- The rest of a string, of which `before` was read, backwards. -/
def textFrom : (fuel : Nat) → (before : List Char) → Scan String
  | fuel + 1, before, c :: cs =>
    if c = '"' then some (String.ofList before.reverse, cs)
    else if c = '\\' then
      match escape cs with
      | some (d, cs) => textFrom fuel (d :: before) cs
      | none => none
    else textFrom fuel (c :: before) cs
  | _, _, _ => none

/-- The rest of a string without escapes, which ends with a quote and as many number signs as it
began with. -/
def rawFrom (closer : List Char) (before : List Char) : Scan String
  | [] => none
  | c :: cs =>
    if c = '"' ∧ closer.isPrefixOf cs then
      some (String.ofList before.reverse, cs.drop closer.length)
    else rawFrom closer (c :: before) cs

/-- A string without escapes, after the letter that marks it. -/
def raw (cs : List Char) : Option (String × List Char) :=
  let closer := cs.takeWhile (· == '#')
  match cs.dropWhile (· == '#') with
  | '"' :: cs => rawFrom closer [] cs
  | _ => none

/-- A character between single quotes, after the first of them. -/
def character : Scan Char
  | '\\' :: cs =>
    match escape cs with
    | some (c, '\'' :: cs) => some (c, cs)
    | _ => none
  | c :: '\'' :: cs => some (c, cs)
  | _ => none

/-! ### Numbers -/

/-- Whether a character may stand in a floating-point number. -/
def isRealChar (c : Char) : Bool := isDigit c ∨ c ∈ ['e', 'E', '.', '+', '-', '_']

/-- Whether a character may stand in a whole number. -/
def isWholeChar (c : Char) : Bool := (digitIn? 16 c).isSome ∨ c = '_'

/-- A whole number without its sign. -/
def magnitude? (cs : List Char) : Option Nat :=
  let (base, cs) := match cs with
    | '0' :: 'x' :: cs => (16, cs)
    | '0' :: 'o' :: cs => (8, cs)
    | '0' :: 'b' :: cs => (2, cs)
    | cs => (10, cs)
  if cs.head? = some '_' then none else ofRadix? base (cs.filter (· != '_'))

/-- The letter of a base after the zero of a number, and what the number goes on with. -/
def baseMark : List Char → List Char × List Char
  | '0' :: c :: cs => if c = 'x' ∨ c = 'o' ∨ c = 'b' then (['0', c], cs) else ([], '0' :: c :: cs)
  | cs => ([], cs)

/-- A number. A whole number fits into 64 bits, with a sign or without. -/
def number : Scan Scalar
  | cs =>
    let (sign, digits) := match cs with
      | '+' :: cs => (['+'], cs)
      | '-' :: cs => (['-'], cs)
      | cs => ([], cs)
    let negative := sign = ['-']
    let realPart := digits.takeWhile isRealChar
    if (digits.takeWhile isWholeChar).length < realPart.length then
      if '_' ∈ realPart then none
      else
        (readReal? (sign ++ realPart)).map fun x => (.real x, digits.dropWhile isRealChar)
    else
      let (mark, more) := baseMark digits
      match magnitude? (mark ++ more.takeWhile isWholeChar) with
      | none => none
      | some n =>
        let n : Int := if negative then -n else n
        if -0x8000000000000000 ≤ n ∧ n ≤ maxUnsigned64 then
          some (.integer n, more.dropWhile isWholeChar)
        else none

/-! ### Values -/

/-- What is left after a comma that may be missing. -/
def comma (cs : List Char) : Option (List Char) :=
  match skip cs with
  | some (',' :: cs) => skip cs
  | rest => rest

/-- Values up to a closing character, after the opening one or a comma. -/
def items (value : Scan Tree) (closer : Char) : (fuel : Nat) → Scan (List Tree)
  | 0, _ => none
  | fuel + 1, cs =>
    match skip cs with
    | none => none
    | some [] => none
    | some (c :: cs) =>
      if c = closer then some ([], cs)
      else
        match value (c :: cs) with
        | none => none
        | some (t, cs) =>
          match skip cs with
          | some (d :: cs) =>
            if d = ',' then (items value closer fuel cs).map fun (ts, cs) => (t :: ts, cs)
            else if d = closer then some ([t], cs)
            else none
          | _ => none

/-- Named values up to a closing character, after the opening one or a comma. -/
def entries (key : Scan String) (value : Scan Tree) (closer : Char) :
    (fuel : Nat) → Scan (List (String × Tree))
  | 0, _ => none
  | fuel + 1, cs =>
    match skip cs with
    | none => none
    | some [] => none
    | some (c :: cs) =>
      if c = closer then some ([], cs)
      else
        match key (c :: cs) with
        | none => none
        | some (n, cs) =>
          match skip cs with
          | some (':' :: cs) =>
            match (skip cs).bind value with
            | none => none
            | some (t, cs) =>
              match skip cs with
              | some (d :: cs) =>
                if d = ',' then
                  (entries key value closer fuel cs).map fun (es, cs) => ((n, t) :: es, cs)
                else if d = closer then some ([(n, t)], cs)
                else none
              | _ => none
          | _ => none

/-- Whether what follows an opening parenthesis is the name of a field. -/
def startsField (cs : List Char) : Bool :=
  match name cs with
  | none => false
  | some (_, cs) =>
    match skip cs with
    | some (':' :: _) => true
    | _ => false

/-- A structure or a tuple, after its opening parenthesis; with nothing in it, it is no value. -/
def structure? (value : Scan Tree) (cs : List Char) : Option (Tree × List Char) :=
  match skip cs with
  | none => none
  | some (')' :: cs) => some (.nil, cs)
  | some cs =>
    if startsField cs then
      (entries name value ')' (cs.length + 1) cs).map fun (es, cs) => (.ofEntries es, cs)
    else (items value ')' (cs.length + 1) cs).map fun (ts, cs) => (.ofList ts, cs)

/-- The name of an entry of a map, which is a string or a character. -/
def mapKey (value : Scan Tree) : Scan String
  | cs =>
    match value cs with
    | some (.leaf _ (.text s), cs) => some (s, cs)
    | _ => none

/-- What a name stands for, given what follows it. -/
def named (value : Scan Tree) (n : String) (cs : List Char) : Option (Tree × List Char) :=
  if n = "true" then some (.ofScalar (.flag true), cs)
  else if n = "false" then some (.ofScalar (.flag false), cs)
  else if n = "None" then some (.nil, cs)
  else if n = "inf" then some (.ofScalar (.real (.infinite false)), cs)
  else if n = "NaN" then some (.ofScalar (.real .nan), cs)
  else if n = "Some" then
    match skip cs with
    | some ('(' :: cs) =>
      match (skip cs).bind value with
      | none => none
      | some (t, cs) =>
        match comma cs with
        | some (')' :: cs) => some (t, cs)
        | _ => none
    | _ => none
  else
    match skip cs with
    | some ('(' :: cs) => structure? value cs
    | _ => some (.nil, cs)

/-- A value that is nested at most `depth` deep. -/
def value : (depth : Nat) → Scan Tree
  | 0, _ => none
  | depth + 1, cs =>
    match name cs with
    | some (n, cs) => named (value depth) n cs
    | none =>
      match cs with
      | '(' :: cs => structure? (value depth) cs
      | '[' :: cs =>
        (items (value depth) ']' (cs.length + 1) cs).map fun (ts, cs) => (.ofList ts, cs)
      | '{' :: cs =>
        (entries (mapKey (value depth)) (value depth) '}' (cs.length + 1) cs).map fun (es, cs) =>
          (.ofEntries es, cs)
      | '"' :: cs => (textFrom (cs.length + 1) [] cs).map fun (s, cs) => (.ofText s, cs)
      | 'r' :: cs => (raw cs).map fun (s, cs) => (.ofText s, cs)
      | '\'' :: cs => (character cs).map fun (c, cs) => (.ofText (String.singleton c), cs)
      | '-' :: 'i' :: 'n' :: 'f' :: cs => some (.ofScalar (.real (.infinite true)), cs)
      | cs => (number cs).map fun (s, cs) => (.ofScalar s, cs)

/-- How deep values may be nested. -/
def maxDepth : Nat := 128

/-! ### Files -/

/-- The features that a file may ask for. They change nothing here. -/
def features : List String :=
  ["unwrap_newtypes", "implicit_some", "unwrap_variant_newtypes", "explicit_struct_names"]

/-- What is left after a character that has to come next. -/
def expect (c : Char) (cs : List Char) : Option (List Char) :=
  match skip cs with
  | some (d :: cs) => if c = d then some cs else none
  | _ => none

/-- What is left after names of features and the parenthesis that ends them. -/
def skipFeatures : (fuel : Nat) → List Char → Option (List Char)
  | 0, _ => none
  | fuel + 1, cs => do
    let (feature, cs) ← name (← skip cs)
    if feature ∉ features then none
    else
      match ← comma cs with
      | ')' :: cs => some cs
      | cs => skipFeatures fuel cs

/-- What is left after the attributes at the beginning of a file, of which there are at most
`fuel`. -/
def skipAttributes : (fuel : Nat) → List Char → Option (List Char)
  | 0, cs => some cs
  | fuel + 1, cs =>
    match expect '#' cs with
    | none => skip cs
    | some cs => do
      let cs ← (expect '!' cs).bind (expect '[')
      let (word, cs) ← name (← skip cs)
      if word ≠ "enable" then none
      else
        let cs ← expect '(' cs
        let cs ← (skipFeatures (cs.length + 1) cs).bind (expect ']')
        skipAttributes fuel cs

/-- The value that a text holds. -/
def read (s : String) : Option Tree :=
  match (skipAttributes (s.length + 1) s.toList).bind (value maxDepth) with
  | none => none
  | some (t, cs) => if skip cs = some [] then some t else none

end Stagehand.Settings.Ron
