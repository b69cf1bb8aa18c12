import Stagehand.Json.Lexeme

/-!
# Reading JSON texts
Readers of values of any shape, of the basic types, of lists and of records. A container may be
nested in at most `maxDepth - 1` others; what nobody wants may be nested without limit. An object
that begins with a certain name is no object but stands for the value whose text it holds. A record
is read from an object, whose unknown members are passed over, or from an array of its fields.
-/

namespace Stagehand.Json

/-- How deep values may be nested. -/
def maxDepth : Nat := 127

/-! ### The first symbol of a value -/

/-- What the first symbol of a value tells about it. -/
inductive Lead
  | null
  | yes
  | no
  | minus
  | digit
  | quote
  | bracket
  | brace
  | other
deriving DecidableEq

/-- What a symbol tells about the value that it begins. -/
def Lead.of : Sym → Lead
  | .stray _ => other
  | .char c =>
    if c = 'n' then null
    else if c = 't' then yes
    else if c = 'f' then no
    else if c = '-' then minus
    else if isDigit c then digit
    else if c = '"' then quote
    else if c = '[' then bracket
    else if c = '{' then brace
    else other

/-- The fault of a reader that expected something else than what stands here. Words, numbers and
strings are read before they are reported; they may be malformed themselves. -/
def mismatch (expected : String) : List Sym → Fault
  | [] => ⟨.eofInValue, [], 0⟩
  | c :: r =>
    let found {α : Type} (what : α → Found) : Except Fault (α × List Sym) → Fault
      | .error f => f
      | .ok (a, r) => ⟨.invalidType (what a) expected, r, 0⟩
    let number : Number → Found
      | .integer n => .integer n
      | .real x => .real x
    match Lead.of c with
    | .null => found (fun _ => .null) (readWord ['u', 'l', 'l'] r)
    | .yes => found (fun _ => .bool true) (readWord ['r', 'u', 'e'] r)
    | .no => found (fun _ => .bool false) (readWord ['a', 'l', 's', 'e'] r)
    | .minus => found number (readNumber true r)
    | .digit => found number (readNumber false (c :: r))
    | .quote => found .string (readString r)
    | .bracket => ⟨.invalidType .sequence expected, c :: r, 0⟩
    | .brace => ⟨.invalidType .map expected, c :: r, 0⟩
    | .other => ⟨.expectedValue, c :: r, 1⟩

/-! ### Items and members -/

/-- Whether an array goes on, and what is left from its next item or its closing bracket. -/
def nextItem (first : Bool) (s : List Sym) : Except Fault (Bool × List Sym) :=
  match skipBlanks s with
  | [] => faultHere .eofInArray []
  | c :: r =>
    if c = .char ']' then .ok (false, c :: r)
    else if first then .ok (true, c :: r)
    else if c = .char ',' then
      match skipBlanks r with
      | [] => faultHere .eofInValue []
      | d :: r => if d = .char ']' then faultNext .trailingComma (d :: r) else .ok (true, d :: r)
    else faultNext .expectedCommaOrBracket (c :: r)

/-- What is left after the bracket that closes an array. -/
def closeArray (s : List Sym) : Except Fault (List Sym) :=
  match skipBlanks s with
  | [] => faultHere .eofInArray []
  | c :: r =>
    if c = .char ']' then .ok r
    else if c = .char ',' then
      match skipBlanks r with
      | [] => faultHere .trailingCharacters []
      | d :: r =>
        if d = .char ']' then faultNext .trailingComma (d :: r)
        else faultNext .trailingCharacters (d :: r)
    else faultNext .trailingCharacters (c :: r)

/-- The items of an array, after its opening bracket and up to its closing one. There are not
more of them than `fuel`. -/
def readItems {α : Type} (item : Reader α) : (fuel : Nat) → (first : Bool) → Reader (List α)
  | 0, _, s => .ok ([], s)
  | fuel + 1, first, s =>
    match nextItem first s with
    | .error f => .error f
    | .ok (false, r) => .ok ([], r)
    | .ok (true, r) =>
      match item r with
      | .error f => .error f
      | .ok (a, r) =>
        match readItems item fuel false r with
        | .error f => .error f
        | .ok (as, r) => .ok (a :: as, r)

/-- An array, after its opening bracket. -/
def readArray {α : Type} (item : Reader α) : Reader (List α)
  | s => match readItems item (s.length + 1) true s with
    | .error f => .error f
    | .ok (as, r) =>
      match closeArray r with
      | .error f => .error f
      | .ok r => .ok (as, r)

/-- Whether an object goes on, and what is left from after the opening quote of its next name or
from its closing brace. -/
def nextName (first : Bool) (s : List Sym) : Except Fault (Bool × List Sym) :=
  match skipBlanks s with
  | [] => faultHere .eofInObject []
  | c :: r =>
    if c = .char '}' then .ok (false, c :: r)
    else if first then
      if c = .char '"' then .ok (true, r) else faultNext .keyNotString (c :: r)
    else if c = .char ',' then
      match skipBlanks r with
      | [] => faultHere .eofInValue []
      | d :: r =>
        if d = .char '"' then .ok (true, r)
        else if d = .char '}' then faultNext .trailingComma (d :: r)
        else faultNext .keyNotString (d :: r)
    else faultNext .expectedCommaOrBrace (c :: r)

/-- What is left after the colon that follows a name. -/
def readColon (s : List Sym) : Except Fault (List Sym) :=
  match skipBlanks s with
  | [] => faultHere .eofInObject []
  | c :: r => if c = .char ':' then .ok r else faultNext .expectedColon (c :: r)

/-- What is left after the brace that closes an object. -/
def closeObject (s : List Sym) : Except Fault (List Sym) :=
  match skipBlanks s with
  | [] => faultHere .eofInObject []
  | c :: r =>
    if c = .char '}' then .ok r
    else if c = .char ',' then faultNext .trailingComma (c :: r)
    else faultNext .trailingCharacters (c :: r)

/-- A name and its value, after the opening quote of the name. -/
def readMember {α : Type} (value : Reader α) : Reader (String × α)
  | s => match readString s with
    | .error f => .error f
    | .ok (name, r) =>
      match readColon r with
      | .error f => .error f
      | .ok r =>
        match value r with
        | .error f => .error f
        | .ok (a, r) => .ok ((name, a), r)

/-- The members of an object, after its opening brace and up to its closing one. There are not
more of them than `fuel`. -/
def readEntries {α : Type} (value : Reader α) :
    (fuel : Nat) → (first : Bool) → Reader (List (String × α))
  | 0, _, s => .ok ([], s)
  | fuel + 1, first, s =>
    match nextName first s with
    | .error f => .error f
    | .ok (false, r) => .ok ([], r)
    | .ok (true, r) =>
      match readMember value r with
      | .error f => .error f
      | .ok (m, r) =>
        match readEntries value fuel false r with
        | .error f => .error f
        | .ok (ms, r) => .ok (m :: ms, r)

/-- The members of an object, after its opening brace; of two with one name the later counts. -/
def readObject {α : Type} (value : Reader α) : Reader (Members α)
  | s => match readEntries value (s.length + 1) true s with
    | .error f => .error f
    | .ok (entries, r) =>
      match closeObject r with
      | .error f => .error f
      | .ok r => .ok (Members.ofList entries, r)

/-! ### Whole texts -/

/-- Reads a text that holds one value and nothing but blanks around it. -/
def readAll {α : Type} (reader : Reader α) (s : List Sym) : Except ReadError α :=
  match reader s with
  | .error f => .error (f.locate s)
  | .ok (a, r) =>
    match skipBlanks r with
    | [] => .ok a
    | r => .error (Fault.locate ⟨.trailingCharacters, r, 1⟩ s)

/-- Reads a text that holds one value. -/
def read {α : Type} (reader : Reader α) (text : String) : Except ReadError α :=
  readAll reader (Utf8.ofString text)

/-! ### Embedded texts -/

/-- A string, of which `expected` says what it is. -/
def readStringAs (expected : String) : Reader String
  | s => match skipBlanks s with
    | [] => faultHere .eofInValue []
    | c :: r => if Lead.of c = .quote then readString r else .error (mismatch expected (c :: r))

/-- The name under which an object holds the text of the value that it stands for. -/
def embeddedName : String := "$serde_json::private::RawValue"

/-- What is left after the first name of an object, if it is the one of an embedded text. -/
def embedded? (s : List Sym) : Option (List Sym) :=
  match nextName true s with
  | .ok (true, r) =>
    match readString r with
    | .ok (name, r) => if name = embeddedName then some r else none
    | .error _ => none
  | _ => none

/-- The value of an embedded text, from after its name on. No other member may follow. -/
def readEmbedded (inner : String → Except ReadError Json) : Reader Json
  | s => match readColon s with
    | .error f => .error f
    | .ok r =>
      match readStringAs "raw value" r with
      | .error f => .error f
      | .ok (text, r) =>
        match inner text with
        | .error e => faultHere (.embedded e.cause e.line e.column) r
        | .ok v =>
          match closeObject r with
          | .error f => .error f
          | .ok r => .ok (v, r)

/-! ### Values -/

/-- The value that a reader's result stands for. -/
def mapResult {α β : Type} (f : α → β) : Except Fault (α × List Sym) → Except Fault (β × List Sym)
  | .error e => .error e
  | .ok (a, r) => .ok (f a, r)

/-- A value of any shape, given readers for what follows the opening bracket of an array and the
opening brace of an object. -/
def readShape (array object : List Sym → Reader Json) : Reader Json
  | s => match skipBlanks s with
    | [] => faultHere .eofInValue []
    | c :: r =>
      match Lead.of c with
      | .null => mapResult (fun _ => .null) (readWord ['u', 'l', 'l'] r)
      | .yes => mapResult (fun _ => .bool true) (readWord ['r', 'u', 'e'] r)
      | .no => mapResult (fun _ => .bool false) (readWord ['a', 'l', 's', 'e'] r)
      | .minus => mapResult .number (readNumber true r)
      | .digit => mapResult .number (readNumber false (c :: r))
      | .quote => mapResult .string (readString r)
      | .bracket => array (c :: r) r
      | .brace => object (c :: r) r
      | .other => faultNext .expectedValue (c :: r)

/-- What the braces of an object hold, after the opening one: the text of a value, or members. -/
def readBraces (inner : String → Except ReadError Json) (value : Reader Json) : Reader Json
  | s => match embedded? s with
    | some r => readEmbedded inner r
    | none => mapResult .object (readObject value s)

/-- A value that holds containers nested at most `depth` deep, given the values of the texts that
are embedded in it. -/
def readValueWith (inner : String → Except ReadError Json) : (depth : Nat) → Reader Json
  | 0 => readShape (fun s _ => faultNext .nestedTooDeep s) (fun s _ => faultNext .nestedTooDeep s)
  | depth + 1 =>
    readShape (fun _ r => mapResult .array (readArray (readValueWith inner depth) r))
      (fun _ r => readBraces inner (readValueWith inner depth) r)

/-- The value of a text in which texts are embedded less than `texts` deep. -/
def readNested : (texts : Nat) → String → Except ReadError Json
  | 0, _ => .error ⟨.eofInValue, 1, 0⟩
  | texts + 1, text => read (readValueWith (readNested texts) maxDepth) text

/-- The value of an embedded text. A text that is embedded in another one is shorter than that. -/
def readInner (text : String) : Except ReadError Json := readNested (text.length + 1) text

/-- A value that holds containers nested at most `depth` deep. -/
def readValue (depth : Nat) : Reader Json := readValueWith readInner depth

/-! ### What nobody wants -/

/-- A container that is being passed over. -/
inductive Frame
  | array
  | object
deriving DecidableEq

namespace Frame

/-- The character that closes the container. -/
def closer : Frame → Char
  | array => ']'
  | object => '}'

/-- What is wrong where the text ends inside the container. -/
def eof : Frame → Cause
  | array => .eofInArray
  | object => .eofInObject

/-- What is wrong where an element is followed by something else than a comma or the end. -/
def expectedComma : Frame → Cause
  | array => .expectedCommaOrBracket
  | object => .expectedCommaOrBrace

/-- What is left from the next value of the container on. -/
def enter : Frame → List Sym → Except Fault (List Sym)
  | array, s => .ok s
  | object, s =>
    match skipBlanks s with
    | [] => faultHere .eofInObject []
    | c :: r =>
      if c = .char '"' then
        match skipString r with
        | .error f => .error f
        | .ok (_, r) => readColon r
      else faultNext .keyNotString (c :: r)

end Frame

/-- Where a reader that passes over a value stands: before a value, or after one or, where a
comma is not accepted yet, after the opening of a container. -/
inductive SkipPhase
  | value
  | after (comma : Bool)

/-- Passes over a value inside of open containers. Every second step takes a symbol, and `fuel`
bounds the steps. -/
def skipFrom : (fuel : Nat) → SkipPhase → List Frame → Reader Unit
  | 0, _, _, s => .ok ((), s)
  | fuel + 1, .value, frames, s =>
    let onward : Except Fault (Unit × List Sym) → Except Fault (Unit × List Sym)
      | .error f => .error f
      | .ok (_, r) => skipFrom fuel (.after true) frames r
    match skipBlanks s with
    | [] => faultHere .eofInValue []
    | c :: r =>
      match Lead.of c with
      | .null => onward (readWord ['u', 'l', 'l'] r)
      | .yes => onward (readWord ['r', 'u', 'e'] r)
      | .no => onward (readWord ['a', 'l', 's', 'e'] r)
      | .minus => onward (skipNumber r)
      | .digit => onward (skipNumber (c :: r))
      | .quote => onward (skipString r)
      | .bracket => skipFrom fuel (.after false) (.array :: frames) r
      | .brace => skipFrom fuel (.after false) (.object :: frames) r
      | .other => faultNext .expectedValue (c :: r)
  | _ + 1, .after _, [], s => .ok ((), s)
  | fuel + 1, .after comma, frame :: frames, s =>
    let inside (s : List Sym) : Except Fault (Unit × List Sym) :=
      match frame.enter s with
      | .error f => .error f
      | .ok r => skipFrom fuel .value (frame :: frames) r
    match skipBlanks s with
    | [] => faultHere frame.eof []
    | c :: r =>
      if c = .char ',' ∧ comma then inside r
      else if c = .char frame.closer then skipFrom fuel (.after true) frames r
      else if comma then faultNext frame.expectedComma (c :: r)
      else inside (c :: r)

/-- Passes over a value that nobody wants. -/
def skipValue : Reader Unit
  | s => skipFrom (2 * s.length + 2) .value [] s

/-! ### Basic types -/

/-- A value of the type, or nothing for `null`. -/
def readOption {α : Type} (value : Reader α) : Reader (Option α)
  | s => match skipBlanks s with
    | c :: r =>
      if c = .char 'n' then mapResult (fun _ => none) (readWord ['u', 'l', 'l'] r)
      else mapResult some (value (c :: r))
    | [] => mapResult some (value [])

/-- A string. -/
def readText : Reader String := readStringAs "a string"

/-- A truth value. -/
def readBool : Reader Bool
  | s => match skipBlanks s with
    | [] => faultHere .eofInValue []
    | c :: r =>
      match Lead.of c with
      | .yes => mapResult (fun _ => true) (readWord ['r', 'u', 'e'] r)
      | .no => mapResult (fun _ => false) (readWord ['a', 'l', 's', 'e'] r)
      | _ => .error (mismatch "a boolean" (c :: r))

/-- An integer within bounds, of a type that is called `expected`. -/
def readInteger (expected : String) (lo hi : Int) : Reader Int
  | s =>
    let bounded : Except Fault (Number × List Sym) → Except Fault (Int × List Sym)
      | .error f => .error f
      | .ok (.integer n, r) =>
        if lo ≤ n ∧ n ≤ hi then .ok (n, r)
        else faultHere (.invalidValue (.integer n) expected) r
      | .ok (.real x, r) => faultHere (.invalidType (.real x) expected) r
    match skipBlanks s with
    | [] => faultHere .eofInValue []
    | c :: r =>
      match Lead.of c with
      | .minus => bounded (readNumber true r)
      | .digit => bounded (readNumber false (c :: r))
      | _ => .error (mismatch expected (c :: r))

/-- A list of values of one type. -/
def readList {α : Type} (item : Reader α) : Reader (List α)
  | s => match skipBlanks s with
    | [] => faultHere .eofInValue []
    | c :: r =>
      if Lead.of c = .bracket then readArray item r
      else .error (mismatch "a sequence" (c :: r))

/-- The members of an object of any shape. -/
def readMembers : Reader (Members Json)
  | s => match skipBlanks s with
    | [] => faultHere .eofInValue []
    | c :: r =>
      if Lead.of c = .brace then readObject (readValue (maxDepth - 1)) r
      else .error (mismatch "a map" (c :: r))

/-! ### Records -/

/-- How the member of a name goes into a partial record. -/
inductive Member (σ : Type)
  | unknown
  | repeated
  | known (read : Reader σ)

/-- How values of a type `α` are read from objects and from arrays: `σ` is what has been read of
one so far. -/
structure Record (σ α : Type) where
  /-- What the type is called in messages. -/
  expected : String
  /-- A record of which nothing has been read. -/
  start : σ
  member : σ → String → Member σ
  /-- The fields in the order in which an array has them. -/
  items : List (σ → Reader σ)
  /-- The record that an object's members make. -/
  ofMembers : σ → Except Cause α
  /-- The record that an array's items make. -/
  ofItems : σ → Except Cause α

namespace Record

variable {σ α : Type}

/-- Where a record is found wrong as a whole: after its closing character, as far as that can be
reached from here. -/
def settle (closer : Char) (s : List Sym) : List Sym :=
  match skipBlanks s with
  | [] => []
  | c :: r =>
    if c = .char closer then r
    else if closer = ']' ∧ c = .char ',' then skipBlanks r
    else c :: r

/-- The members of an object, after its opening brace and up to its closing one. -/
def readFields (f : Record σ α) : (fuel : Nat) → (first : Bool) → σ → Reader σ
  | 0, _, st, s => .ok (st, s)
  | fuel + 1, first, st, s =>
    match nextName first s with
    | .error e => .error e
    | .ok (false, r) => .ok (st, r)
    | .ok (true, r) =>
      match readString r with
      | .error e => .error e
      | .ok (name, r) =>
        match f.member st name with
        | .repeated => faultHere (.duplicateField name) (settle '}' r)
        | .unknown =>
          match readColon r with
          | .error e => .error e
          | .ok r =>
            match skipValue r with
            | .error e => .error e
            | .ok (_, r) => readFields f fuel false st r
        | .known read =>
          match readColon r with
          | .error e => .error e
          | .ok r =>
            match read r with
            | .error e => .error e
            | .ok (st, r) => readFields f fuel false st r

/-- The leading items of an array, as many as there are, after its opening bracket. -/
def readPositions : List (σ → Reader σ) → (first : Bool) → σ → Reader σ
  | [], _, st, s => .ok (st, s)
  | item :: items, first, st, s =>
    match nextItem first s with
    | .error e => .error e
    | .ok (false, r) => .ok (st, r)
    | .ok (true, r) =>
      match item st r with
      | .error e => .error e
      | .ok (st, r) => readPositions items false st r

/-- A record. -/
def read (f : Record σ α) : Reader α
  | s => match skipBlanks s with
    | [] => faultHere .eofInValue []
    | c :: r =>
      match Lead.of c with
      | .brace =>
        match f.readFields (r.length + 1) true f.start r with
        | .error e => .error e
        | .ok (st, r) =>
          match f.ofMembers st with
          | .error cause => faultHere cause (settle '}' r)
          | .ok a =>
            match closeObject r with
            | .error e => .error e
            | .ok r => .ok (a, r)
      | .bracket =>
        match readPositions f.items true f.start r with
        | .error e => .error e
        | .ok (st, r) =>
          match f.ofItems st with
          | .error cause => faultHere cause (settle ']' r)
          | .ok a =>
            match closeArray r with
            | .error e => .error e
            | .ok r => .ok (a, r)
      | _ => .error (mismatch f.expected (c :: r))

end Record

/-! ### Texts of any shape -/

/-- The value of a text. -/
def parse (text : String) : Except ReadError Json := read (readValue maxDepth) text

end Stagehand.Json
