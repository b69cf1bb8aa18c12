import Stagehand.Settings.Tree
import Stagehand.Text.Lower
import Stagehand.Text.Quoted

/-!
# Supplied settings
The settings of a tree, before it is known whether they make sense. A value of another type than
the one that is wanted counts as the nearest value of that type, if there is one. A section is a
table, or a list of its settings in a fixed order.
-/

namespace Stagehand.Settings

/-- What a setting has to be. -/
inductive Wanted
  | text
  | switch
  | integer
  | unsigned
deriving DecidableEq

/-- The words for what a setting has to be. -/
def Wanted.words : Wanted → String
  | text => "a string"
  | switch => "a boolean"
  | integer => "an integer"
  | unsigned => "an unsigned 64 bit or less integer"

/-! ### Where a setting is -/

/-- The parts that the settings are in. -/
inductive Section
  | logging
  | cache
deriving DecidableEq

namespace Section

/-- The name of a section. -/
def name : Section → String
  | logging => "logging"
  | cache => "cache"

/-- What a section has to be, in words. -/
def words : Section → String
  | logging => "struct RawLoggingSettings"
  | cache => "struct RawCacheSettings"

end Section

/-- A setting that sources may supply. -/
inductive Field
  | level
  | json
  | url
  | token
  | timeout
deriving DecidableEq

namespace Field

/-- The section that a setting is in. -/
def home : Field → Section
  | level => .logging
  | json => .logging
  | url => .cache
  | token => .cache
  | timeout => .cache

/-- The name of a setting in its section. -/
def name : Field → String
  | level => "level"
  | json => "json"
  | url => "url"
  | token => "token"
  | timeout => "request_timeout_ms"

/-- The place of a setting in a section that is a list. -/
def place : Field → Nat
  | level => 0
  | json => 1
  | url => 0
  | token => 1
  | timeout => 2

/-- The key of a setting. -/
def key (f : Field) : String := f.home.name ++ "." ++ f.name

/-- The key of a setting in a section that is a list. -/
def listKey (f : Field) : String :=
  f.home.name ++ "[" ++ String.ofList (Numeral.ofNat f.place) ++ "]"

end Field

/-! ### What does not fit -/

/-- A value that cannot count as what is wanted. -/
inductive Misfit
  | setting (key : String) (wanted : Wanted) (found : Tree)
  | part (s : Section) (found : Tree)

/-- The words for yes and no. -/
def switchText (b : Bool) : String := if b then "true" else "false"

/-- An integer as text. -/
def integerText (n : Int) : String := String.ofList (Numeral.ofInt n)

/-- A number with a fraction, if only of zero. -/
def pointed (x : Binary64) : String :=
  match x with
  | .finite _ _ _ => if '.' ∈ x.plain.toList then x.plain else x.plain ++ ".0"
  | _ => x.plain

namespace Tree

/-- The words for a value that stands where a setting should be. -/
def settingWords : Tree → String
  | leaf _ .nil => "unit value"
  | leaf _ (.flag b) => "boolean `" ++ switchText b ++ "`"
  | leaf _ (.integer n) => "64-bit integer `" ++ integerText n ++ "`"
  | leaf _ (.real x) => "floating point `" ++ x.plain ++ "`"
  | leaf _ (.text s) => "string " ++ quoted s
  | list _ _ => "sequence"
  | table _ _ => "map"

/-- The words for a value that stands where a section should be. -/
def sectionWords : Tree → String
  | leaf _ (.integer n) => "integer `" ++ integerText n ++ "`"
  | leaf _ (.real x) => "floating point `" ++ pointed x ++ "`"
  | t => t.settingWords

end Tree

/-- The words for what does not fit, and where it comes from. -/
def Misfit.message : Misfit → String
  | setting key wanted found =>
    "invalid type: " ++ found.settingWords ++ ", expected " ++ wanted.words ++
      " for key `" ++ key ++ "`" ++
      match found.origin with
      | some place => " in " ++ place
      | none => ""
  | part s found =>
    "invalid type: " ++ found.sectionWords ++ ", expected " ++ s.words ++
      " for key `" ++ s.name ++ "`"

/-! ### Single settings -/

/-- Reads the value of a setting, or says what was wanted and what was found. -/
abbrev Sense (α : Type) := Tree → Except (Wanted × Tree) α

/-- A text; other single values count as their texts. -/
def asText : Sense String
  | .leaf _ (.text s) => .ok s
  | .leaf _ (.flag b) => .ok (switchText b)
  | .leaf _ (.integer n) => .ok (integerText n)
  | .leaf _ (.real x) => .ok x.plain
  | t => .error (.text, t)

/-- The words that count as yes and as one. -/
def trueWords : List String := ["true", "on", "yes"]

/-- The words that count as no and as zero. -/
def falseWords : List String := ["false", "off", "no"]

/-- Yes or no. A number is yes unless it is zero, and some words count too, in letters of either
case. -/
def asSwitch : Sense Bool
  | .leaf _ (.flag b) => .ok b
  | .leaf _ (.integer n) => .ok (n != 0)
  | .leaf _ (.real x) => .ok (!x.isZero)
  | .leaf o (.text s) =>
    let word := lowerCase s
    if word ∈ "1" :: trueWords then .ok true
    else if word ∈ "0" :: falseWords then .ok false
    else .error (.switch, .leaf o (.text word))
  | t => .error (.switch, t)

/-- An unsigned number of 64 bits. A fraction is rounded to the nearest number, and what is too
large or too small to the nearest end of the range. -/
def asUnsigned : Sense Nat
  | .leaf _ (.flag b) => .ok b.toNat
  | .leaf o (.integer n) =>
    if 0 ≤ n then .ok n.toNat else .error (.unsigned, .leaf o (.integer n))
  | .leaf _ (.real x) => .ok x.toUnsigned64
  | .leaf o (.text s) =>
    let word := lowerCase s
    if word ∈ trueWords then .ok 1
    else if word ∈ falseWords then .ok 0
    else
      match unsigned64? s.toList with
      | some n => .ok n
      | none => .error (.integer, .leaf o (.text s))
  | t => .error (.integer, t)

/-! ### All settings -/

/-- The settings that sources supply. -/
structure Supplied where
  level : Option String := none
  json : Option Bool := none
  url : Option String := none
  token : Option String := none
  timeoutMs : Option Nat := none
deriving DecidableEq

/-- The value of a setting that may be missing. -/
def optional {α : Type} (key : String) (sense : Sense α) : Option Tree → Except Misfit (Option α)
  | none => .ok none
  | some (.leaf _ .nil) => .ok none
  | some t =>
    match sense t with
    | .ok a => .ok (some a)
    | .error (wanted, found) => .error (.setting key wanted found)

/-- The value of a setting in its section, which may be missing itself. -/
def readField {α : Type} (f : Field) (sense : Sense α) : Option Tree → Except Misfit (Option α)
  | none => .ok none
  | some (.table _ es) => optional f.key sense (Members.get? f.name es)
  | some (.list _ items) => optional f.listKey sense items[f.place]?
  | some t => .error (.part f.home t)

namespace Supplied

/-- The settings that a table of sections supplies. -/
def ofEntries (root : Members Tree) : Except Misfit Supplied :=
  let logging := root.get? Section.logging.name
  let cache := root.get? Section.cache.name
  match readField .level asText logging with
  | .error e => .error e
  | .ok level =>
    match readField .json asSwitch logging with
    | .error e => .error e
    | .ok json =>
      match readField .url asText cache with
      | .error e => .error e
      | .ok url =>
        match readField .token asText cache with
        | .error e => .error e
        | .ok token =>
          match readField .timeout asUnsigned cache with
          | .error e => .error e
          | .ok timeoutMs => .ok { level, json, url, token, timeoutMs }

end Supplied

end Stagehand.Settings
