import Stagehand.Json.Printer

/-!
# Severities
How grave a message is, and how grave a message must be in order to be shown.
-/

namespace Stagehand

/-- How grave a message is. -/
inductive Severity
  | debug
  | info
  | warn
  | error
deriving DecidableEq

namespace Severity

/-- All severities, the least grave first. -/
def all : List Severity := [debug, info, warn, error]

/-- The name of a severity in records. -/
def slug : Severity → String
  | debug => "debug"
  | info => "info"
  | warn => "warn"
  | error => "error"

/-- The name of a severity in log lines. -/
def label : Severity → String
  | debug => "DEBUG"
  | info => "INFO"
  | warn => "WARN"
  | error => "ERROR"

/-- The JSON value of a severity. -/
def toJson (v : Severity) : Json := .string v.slug

/-- The place of a severity on the scale of verbosity: the graver, the lower. -/
def rank : Severity → Nat
  | error => 1
  | warn => 2
  | info => 3
  | debug => 4

end Severity

/-- How much is shown: everything up to a place on the scale of verbosity. -/
inductive Verbosity
  | off
  | error
  | warn
  | info
  | debug
  | trace
deriving DecidableEq

namespace Verbosity

/-- All verbosities, from nothing to everything. -/
def all : List Verbosity := [off, error, warn, info, debug, trace]

/-- The name of a verbosity. -/
def name : Verbosity → String
  | off => "off"
  | error => "error"
  | warn => "warn"
  | info => "info"
  | debug => "debug"
  | trace => "trace"

/-- The place of a verbosity on the scale. -/
def rank : Verbosity → Nat
  | off => 0
  | error => 1
  | warn => 2
  | info => 3
  | debug => 4
  | trace => 5

/-- Whether messages of a severity are shown. -/
def shows (v : Verbosity) (s : Severity) : Bool := s.rank ≤ v.rank

/-- A text with its letters from `A` to `Z` in lower case. -/
def folded (cs : List Char) : List Char := cs.map Char.toLower

/-- The verbosity that a text names, in letters of either case or by its place on the scale. The
empty text names errors only. -/
def ofText? (text : String) : Option Verbosity :=
  match text.toList with
  | [] => some error
  | cs =>
    match Numeral.natural? cs with
    | some n => all.find? fun v => v.rank = n
    | none => all.find? fun v => v.name.toList = folded cs

/-- The words about a text that names no verbosity. -/
def unknownMessage : String :=
  "error parsing level filter: expected one of \"off\", \"error\", \"warn\", " ++
    "\"info\", \"debug\", \"trace\", or a number 0-5"

end Verbosity

end Stagehand
