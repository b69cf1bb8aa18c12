import Stagehand.Json.Printer
import Stagehand.Text.Quoted
import Stagehand.Text.Utf8

/-!
# What is wrong with a JSON text
A reader that fails says what it met and where: the symbols it had not consumed yet, and how many
of their bytes it had looked at. The place is told to people as a line and a column, the column
counting bytes.
-/

namespace Stagehand.Json

/-- What a reader found where it expected something else. -/
inductive Found
  | null
  | bool (b : Bool)
  | integer (n : Int)
  | real (x : Binary64)
  | string (s : String)
  | sequence
  | map

namespace Found

/-- The words for what was found. -/
def message : Found → String
  | null => "null"
  | bool b => "boolean `" ++ (if b then "true" else "false") ++ "`"
  | integer n => "integer `" ++ String.ofList (Numeral.ofInt n) ++ "`"
  | real x => "floating point `" ++ String.ofList (Number.realText x) ++ "`"
  | string s => "string " ++ quoted s
  | sequence => "sequence"
  | map => "map"

end Found

/-- What can be wrong with a text, as JSON or as the text of an expected type. -/
inductive Cause
  | eofInArray
  | eofInObject
  | eofInString
  | eofInValue
  | expectedColon
  | expectedCommaOrBracket
  | expectedCommaOrBrace
  | expectedWord
  | expectedValue
  | invalidEscape
  | invalidNumber
  | numberOutOfRange
  | invalidCharacter
  | controlCharacter
  | keyNotString
  | loneSurrogate
  | trailingComma
  | trailingCharacters
  | endOfHexEscape
  | nestedTooDeep
  | invalidType (found : Found) (expected : String)
  | invalidValue (found : Found) (expected : String)
  | invalidLength (length : Nat) (expected : String)
  | missingField (name : String)
  | duplicateField (name : String)
  | unknownVariant (name : String) (expected : List String)
  | embedded (cause : Cause) (line column : Nat)

namespace Cause

/-- The names of a list, each between backquotes. -/
def nameList (names : List String) : String :=
  String.intercalate ", " (names.map fun n => "`" ++ n ++ "`")

/-- The words for what is wrong. -/
def message : Cause → String
  | eofInArray => "EOF while parsing a list"
  | eofInObject => "EOF while parsing an object"
  | eofInString => "EOF while parsing a string"
  | eofInValue => "EOF while parsing a value"
  | expectedColon => "expected `:`"
  | expectedCommaOrBracket => "expected `,` or `]`"
  | expectedCommaOrBrace => "expected `,` or `\x7d`"
  | expectedWord => "expected ident"
  | expectedValue => "expected value"
  | invalidEscape => "invalid escape"
  | invalidNumber => "invalid number"
  | numberOutOfRange => "number out of range"
  | invalidCharacter => "invalid unicode code point"
  | controlCharacter => "control character (\\u0000-\\u001F) found while parsing a string"
  | keyNotString => "key must be a string"
  | loneSurrogate => "lone leading surrogate in hex escape"
  | trailingComma => "trailing comma"
  | trailingCharacters => "trailing characters"
  | endOfHexEscape => "unexpected end of hex escape"
  | nestedTooDeep => "recursion limit exceeded"
  | invalidType found expected => "invalid type: " ++ found.message ++ ", expected " ++ expected
  | invalidValue found expected => "invalid value: " ++ found.message ++ ", expected " ++ expected
  | invalidLength n expected => "invalid length " ++ toString n ++ ", expected " ++ expected
  | missingField name => "missing field `" ++ name ++ "`"
  | duplicateField name => "duplicate field `" ++ name ++ "`"
  | unknownVariant name expected =>
    "unknown variant `" ++ name ++ "`, expected one of " ++ nameList expected
  | embedded cause _ _ => cause.message

end Cause

/-- What is wrong, what had not been consumed when it was noticed, and how many bytes of that
had been looked at. -/
structure Fault where
  cause : Cause
  rest : List Sym
  ahead : Nat

/-- What is wrong with a text and the line and the column where it was noticed. -/
structure ReadError where
  cause : Cause
  line : Nat
  column : Nat

namespace ReadError

/-- The words for what is wrong and where. -/
def message (e : ReadError) : String :=
  e.cause.message ++ " at line " ++ toString e.line ++ " column " ++ toString e.column

end ReadError

/-- The line and the column after the first `bytes` bytes, counted on from a place. -/
def placeAfter (line column : Nat) : (bytes : Nat) → List Sym → Nat × Nat
  | _, [] => (line, column)
  | bytes, s :: more =>
    if bytes < s.width then (line, column + bytes)
    else if s = .char '\n' then placeAfter (line + 1) 0 (bytes - 1) more
    else placeAfter line (column + s.width) (bytes - s.width) more

/-- The place of a fault in the text that was read. What is wrong with an embedded text keeps the
place that it has there. -/
def Fault.locate (f : Fault) (source : List Sym) : ReadError :=
  match f.cause with
  | .embedded cause line column => ⟨cause, line, column⟩
  | cause =>
    let left := Utf8.width f.rest
    let consumed := Utf8.width source - left + min f.ahead left
    let (line, column) := placeAfter 1 0 consumed source
    ⟨cause, line, column⟩

/-- Reads something off the front of a text: the thing and what is left, or a fault. -/
abbrev Reader (α : Type) := List Sym → Except Fault (α × List Sym)

/-- A fault at the front of what is left. -/
def faultHere {α : Type} (cause : Cause) (rest : List Sym) : Except Fault α :=
  .error ⟨cause, rest, 0⟩

/-- A fault noticed by looking at the next byte, which counts as reached. -/
def faultNext {α : Type} (cause : Cause) (rest : List Sym) : Except Fault α :=
  .error ⟨cause, rest, 1⟩

end Stagehand.Json
