import Stagehand.Log.Event
import Stagehand.Text.Blank
import Stagehand.Text.CodeTable

/-!
# Log filters
A filter consists of directives, each of which sets how much is shown of the events from some
part of the program. Of the directives that an event falls under the most specific one decides.
A directive may also be about spans of execution; no event lies in one, so that such directives
show nothing.
-/

namespace Stagehand

/-- A name that an event must have a value for, and whether a certain value is asked for. -/
structure FieldPattern where
  name : String
  hasValue : Bool
deriving DecidableEq

/-- A directive of a filter: how much is shown of the events whose target begins with a text and
which have values for some names. -/
structure Directive where
  target : Option String := none
  inSpan : Bool := false
  fields : List FieldPattern := []
  level : Verbosity := .trace
deriving DecidableEq

/-- What is wrong with a directive. -/
inductive DirectiveFault
  | malformed
  | unknownLevel
deriving DecidableEq

/-- The words for what is wrong with a directive. -/
def DirectiveFault.message : DirectiveFault → String
  | malformed => "invalid filter directive"
  | unknownLevel => Verbosity.unknownMessage

namespace Directive

/-! ### Reading directives -/

/-- Where a reader of a directive stands, with the place where the current part begins. -/
inductive Phase
  | start
  | word (since : Nat)
  | span (since : Nat)
  | field (since : Nat)
  | fieldsEnd
  | level (since : Nat)
  | complete
deriving DecidableEq

/-- Whether a directive may begin with a character. Letters beyond the first 128 may. -/
def startsWord (c : Char) : Bool :=
  c.isAlphanum ∨ c ∈ ['-', ':', '_'] ∨ ('\u0080' ≤ c ∧ !isBlank c)

/-- The part of a text from one place up to another. -/
def slice (text : List Char) (since upTo : Nat) : String :=
  String.ofList ((text.take upTo).drop since)

/-- The level that a text names; the empty text names the highest one. -/
def levelOf (text : String) : Except DirectiveFault Verbosity :=
  if text = "" then .ok .trace
  else
    match Verbosity.ofText? text with
    | some v => .ok v
    | none => .error .unknownLevel

/-- A pattern such as `name` or `name=value`. -/
def fieldOf (text : String) : Except DirectiveFault FieldPattern :=
  if text = "" then .error .malformed
  else
    let name := text.toList.takeWhile (· != '=')
    .ok ⟨String.ofList name, name.length < text.toList.length⟩

/-- Takes the character at place `i`. Parts are cut from the `text`. -/
def step (text : List Char) (d : Directive) (phase : Phase) (i : Nat) (c : Char) :
    Except DirectiveFault (Directive × Phase) :=
  match phase with
  | .start =>
    if c = '[' then .ok (d, .span (i + 1))
    else if startsWord c then .ok (d, .word i)
    else .error .malformed
  | .word since =>
    if c = '=' then .ok ({ d with target := some (slice text since i) }, .level (i + 1))
    else if c = '[' then .ok ({ d with target := some (slice text since i) }, .span (i + 1))
    else .ok (d, .word since)
  | .span since =>
    if c = ']' then .ok ({ d with inSpan := true }, .complete)
    else if c = '{' then
      .ok ({ d with inSpan := slice text since i ≠ "" }, .field (i + 1))
    else .ok (d, .span since)
  | .field since =>
    if c = '}' then
      (fieldOf (slice text since i)).map fun f => ({ d with fields := d.fields ++ [f] }, .fieldsEnd)
    else .ok (d, .field since)
  | .fieldsEnd => if c = ']' then .ok (d, .complete) else .error .malformed
  | .level since => .ok (d, .level since)
  | .complete => if c = '=' then .ok (d, .level (i + 1)) else .error .malformed

/-- Takes the characters from place `i` on. -/
def scan (text : List Char) (d : Directive) (phase : Phase) (i : Nat) :
    List Char → Except DirectiveFault (Directive × Phase)
  | [] => .ok (d, phase)
  | c :: cs =>
    match step text d phase i c with
    | .error f => .error f
    | .ok (d, phase) => scan text d phase (i + 1) cs

/-- The directive that a text spells. Blanks at its ends do not count as characters, but the parts
are cut from the text with them. -/
def read (text : String) : Except DirectiveFault Directive :=
  let all := text.toList
  match scan all {} .start 0 (trimBlanks all) with
  | .error f => .error f
  | .ok (d, .word since) =>
    let word := String.ofList (all.drop since)
    match Verbosity.ofText? word with
    | some level => .ok { d with level }
    | none => .ok { d with target := some word }
  | .ok (d, .level since) =>
    (levelOf (String.ofList (all.drop since))).map fun level => { d with level }
  | .ok (d, .complete) => .ok d
  | .ok _ => .error .malformed

/-! ### Choosing directives -/

/-- Whether a directive can show events at all, and not only in spans or for certain values. -/
def isAboutEvents (d : Directive) : Bool := !d.inSpan && !d.fields.any FieldPattern.hasValue

/-- The names of the values that an event of the directive must have. -/
def fieldNames (d : Directive) : List String := d.fields.map FieldPattern.name

/-- Whether an event falls under a directive. -/
def covers (d : Directive) (e : Event) : Bool :=
  (d.target.all fun t => t.toList.isPrefixOf e.target.toList) &&
    d.fieldNames.all fun n => n = "message" || e.fields.any fun f => f.1 = n

/-- How long the target of a directive is; one without a target is less specific than all. -/
def reach (d : Directive) : Nat :=
  match d.target with
  | some t => t.length + 1
  | none => 0

/-- Whether the second directive decides where both apply: it is not the less specific one. -/
def yieldsTo (d e : Directive) : Bool :=
  if d.reach ≠ e.reach then d.reach < e.reach
  else if d.fields.length ≠ e.fields.length then d.fields.length < e.fields.length
  else !List.lex e.fieldNames d.fieldNames fun a b => a < b

end Directive

/-! ### Filters -/

/-- A filter: its directives, the later ones going before equally specific ones. -/
structure LogFilter where
  directives : List Directive
deriving DecidableEq

namespace LogFilter

/-- The variable that holds the directives. -/
def variableName : String := "RUST_LOG"

/-- The directive that decides about an event. -/
def deciding? (f : LogFilter) (e : Event) : Option Directive :=
  (f.directives.filter fun d => d.isAboutEvents && d.covers e).foldl
    (fun best d =>
      match best with
      | none => some d
      | some b => if b.yieldsTo d then some d else some b) none

/-- Whether an event is shown. -/
def shows (f : LogFilter) (e : Event) : Bool :=
  match f.deciding? e with
  | some d => d.level.shows e.severity
  | none => false

/-- The pieces of a text that should be directives. -/
def pieces (text : String) : List String :=
  ((cutAt ',' text.toList).filter (· ≠ [])).map String.ofList

/-- The directives of a text that can be read. -/
def readable (text : String) : List Directive :=
  (pieces text).filterMap fun p => (Directive.read p).toOption

/-- What is said about the directives of a text that cannot be read. -/
def complaints (text : String) : List String :=
  (pieces text).filterMap fun p =>
    match Directive.read p with
    | .ok _ => none
    | .error f => some ("ignoring \x60" ++ p ++ "\x60: " ++ f.message)

/-- The filter of a text; without any directives all events up to a level are shown. -/
def ofText (text : String) (level : Verbosity) : LogFilter :=
  match readable text with
  | [] => ⟨[{ level }]⟩
  | ds => ⟨ds⟩

end LogFilter

end Stagehand
