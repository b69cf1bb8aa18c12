import Stagehand.Number.Decimal
import Stagehand.Settings.Tree
import Stagehand.Text.Blank
import Stagehand.Text.Radix

/-!
# JSON5
JSON as people write it: with comments, names without quotes, strings in single quotes, commas at
the end of lists, and numbers in more forms.
-/

namespace Stagehand.Settings.Json5

/-! ### Blanks -/

/-- Whether a character ends a line. -/
def isLineEnd (c : Char) : Bool := c ∈ ['\n', '\r', '\u2028', '\u2029']

/-- Whether a character is blank. -/
def isSpace (c : Char) : Bool := (isBlank c ∧ c ≠ '\u0085') ∨ c = '\ufeff'

/-- What is left after a comment that ends with `*/`. -/
def skipBlock : List Char → Option (List Char)
  | [] => none
  | '*' :: '/' :: cs => some cs
  | _ :: cs => skipBlock cs

/-- What is left after blanks and comments, of which there are at most `fuel`. -/
def skipFrom : (fuel : Nat) → List Char → Option (List Char)
  | 0, cs => some cs
  | fuel + 1, cs =>
    match cs.dropWhile isSpace with
    | '/' :: '/' :: cs => skipFrom fuel (cs.dropWhile fun c => !isLineEnd c)
    | '/' :: '*' :: cs => (skipBlock cs).bind (skipFrom fuel)
    | cs => some cs

/-- What is left after blanks and comments. -/
def skip (cs : List Char) : Option (List Char) := skipFrom (cs.length + 1) cs

/-! ### Strings and names -/

/-- The character of an escape by a letter; most letters stand for themselves. -/
def escaped (c : Char) : Char :=
  if c = 'b' then '\x08'
  else if c = 'f' then '\x0c'
  else if c = 'n' then '\n'
  else if c = 'r' then '\r'
  else if c = 't' then '\t'
  else if c = 'v' then '\x0b'
  else c

/-- A code unit of four digits, which may be the first of a pair that makes up a character. -/
def unit : Scan Char
  | cs =>
    match ofRadix? 16 (cs.take 4) with
    | none => none
    | some high =>
      if (cs.take 4).length ≠ 4 then none
      else if 0xd800 ≤ high ∧ high ≤ 0xdbff then
        match cs.drop 4 with
        | '\\' :: 'u' :: cs =>
          match ofRadix? 16 (cs.take 4) with
          | some low =>
            if (cs.take 4).length = 4 ∧ 0xdc00 ≤ low ∧ low ≤ 0xdfff then
              some (Char.ofNat ((high - 0xd800) * 1024 + (low - 0xdc00) + 0x10000), cs.drop 4)
            else none
          | none => none
        | _ => none
      else (character? high).map fun c => (c, cs.drop 4)

/-- What an escape stands for, after its backslash. -/
def escape : Scan (List Char)
  | [] => none
  | 'u' :: cs => (unit cs).map fun (c, cs) => ([c], cs)
  | 'x' :: cs => (scanCodePoint 2 cs).map fun (c, cs) => ([c], cs)
  | '\r' :: '\n' :: cs => some ([], cs)
  | '0' :: cs => if (cs.takeWhile isDigit).isEmpty then some (['\u0000'], cs) else none
  | c :: cs =>
    if isDigit c then none
    else if isLineEnd c then some ([], cs)
    else some ([escaped c], cs)

/-- The rest of a string, of which `before` was read, backwards. -/
def textFrom (quote : Char) : (fuel : Nat) → (before : List Char) → Scan String
  | fuel + 1, before, c :: cs =>
    if c = quote then some (String.ofList before.reverse, cs)
    else if c = '\\' then
      match escape cs with
      | some (ds, cs) => textFrom quote fuel (ds ++ before) cs
      | none => none
    else if c = '\n' ∨ c = '\r' then none
    else textFrom quote fuel (c :: before) cs
  | _, _, _ => none

/-- A string, after its opening quote. -/
def text (quote : Char) : Scan String
  | cs => textFrom quote (cs.length + 1) [] cs

/-- Whether a name may begin with a character. Beyond the first 128 characters all that are not
blank may stand in names. -/
def startsName (c : Char) : Bool :=
  ('a' ≤ c ∧ c ≤ 'z') ∨ ('A' ≤ c ∧ c ≤ 'Z') ∨ c = '_' ∨ c = '$' ∨ ('\u0080' ≤ c ∧ !isSpace c)

/-- Whether a character may stand in a name. -/
def isNameChar (c : Char) : Bool := startsName c ∨ isDigit c

/-- The name of a member, with or without quotes. -/
def name : Scan String
  | [] => none
  | c :: cs =>
    if c = '"' ∨ c = '\'' then text c cs
    else if startsName c then
      some (String.ofList (c :: cs.takeWhile isNameChar), cs.dropWhile isNameChar)
    else none

/-! ### Numbers -/

/-- Whether a character may stand in a number. -/
def isNumberChar (c : Char) : Bool := isNameChar c ∨ c ∈ ['+', '-', '.']

/-- Whether the whole part of a number has no needless zero. -/
def isFine (cs : List Char) : Bool :=
  match cs.takeWhile isDigit with
  | '0' :: _ :: _ => false
  | _ => true

/-- The value of a number without its sign. -/
def unsignedNumber? (negative : Bool) (cs : List Char) : Option Scalar :=
  if String.ofList cs = "Infinity" then some (.real (.infinite negative))
  else if String.ofList cs = "NaN" then some (.real .nan)
  else if !isFine cs then none
  else if cs.all isDigit then
    (Numeral.digits? cs).bind fun n =>
      let n : Int := if negative then -n else n
      if fitsSigned64 n then some (.integer n) else none
  else (Decimal.unsignedOf? negative cs).map fun d => .real d.toBinary64

/-- The value of a number. Numbers with the base sixteen have no sign and 32 bits. -/
def number? : List Char → Option Scalar
  | '+' :: cs => unsignedNumber? false cs
  | '-' :: cs => unsignedNumber? true cs
  | '0' :: x :: cs =>
    if x = 'x' ∨ x = 'X' then
      (ofRadix? 16 cs).bind fun n => if n < 0x100000000 then some (.integer n) else none
    else unsignedNumber? false ('0' :: x :: cs)
  | cs => unsignedNumber? false cs

/-- The value of a word or a number. -/
def word? (cs : List Char) : Option Scalar :=
  match String.ofList cs with
  | "null" => some .nil
  | "true" => some (.flag true)
  | "false" => some (.flag false)
  | _ => number? cs

/-! ### Values -/

/-- The items of a list, after its opening bracket or a comma. -/
def items (value : Scan Tree) : (fuel : Nat) → Scan (List Tree)
  | 0, _ => none
  | fuel + 1, cs =>
    match skip cs with
    | some (']' :: cs) => some ([], cs)
    | some cs =>
      match value cs with
      | none => none
      | some (t, cs) =>
        match skip cs with
        | some (',' :: cs) => (items value fuel cs).map fun (ts, cs) => (t :: ts, cs)
        | some (']' :: cs) => some ([t], cs)
        | _ => none
    | none => none

/-- The members of an object, after its opening brace or a comma. -/
def members (value : Scan Tree) : (fuel : Nat) → Scan (List (String × Tree))
  | 0, _ => none
  | fuel + 1, cs =>
    match skip cs with
    | some ('}' :: cs) => some ([], cs)
    | some cs =>
      match name cs with
      | none => none
      | some (n, cs) =>
        match skip cs with
        | some (':' :: cs) =>
          match (skip cs).bind value with
          | none => none
          | some (t, cs) =>
            match skip cs with
            | some (',' :: cs) => (members value fuel cs).map fun (es, cs) => ((n, t) :: es, cs)
            | some ('}' :: cs) => some ([(n, t)], cs)
            | _ => none
        | _ => none
    | none => none

/-- A value that is nested at most `depth` deep. -/
def value : (depth : Nat) → Scan Tree
  | 0, _ => none
  | depth + 1, cs =>
    match cs with
    | [] => none
    | '[' :: cs => (items (value depth) (cs.length + 1) cs).map fun (ts, cs) => (.ofList ts, cs)
    | '{' :: cs =>
      (members (value depth) (cs.length + 1) cs).map fun (es, cs) => (.ofEntries es, cs)
    | c :: cs =>
      if c = '"' ∨ c = '\'' then (text c cs).map fun (s, cs) => (.ofText s, cs)
      else
        (word? ((c :: cs).takeWhile isNumberChar)).map fun s =>
          (.ofScalar s, (c :: cs).dropWhile isNumberChar)

/-- The value that a text holds. -/
def read (s : String) : Option Tree :=
  match (skip s.toList).bind (value (s.length + 1)) with
  | none => none
  | some (t, cs) => if skip cs = some [] then some t else none

end Stagehand.Settings.Json5
