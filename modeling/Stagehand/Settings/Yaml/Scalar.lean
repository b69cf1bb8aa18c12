import Stagehand.Number.Decimal
import Stagehand.Settings.Tree
import Stagehand.Text.Radix

/-!
# Scalars in YAML
Plain words stand for truth values, numbers and nothing where they look like these, and for
themselves otherwise. Quoted texts always stand for themselves.
-/

namespace Stagehand.Settings.Yaml

/-- A value, and the text that names an entry where the value is used as a key. -/
structure Node where
  tree : Tree
  key : Option String

namespace Node

/-- A value that is no key. -/
def plain (t : Tree) : Node := ⟨t, none⟩

/-- The absence of a value. -/
def nil : Node := plain .nil

/-- A text. -/
def text (cs : List Char) : Node := ⟨.ofText (String.ofList cs), some (String.ofList cs)⟩

/-- An integer. -/
def integer (n : Int) : Node :=
  ⟨.ofScalar (.integer n), some (String.ofList (Numeral.ofInt n))⟩

/-- A truth value. -/
def flag (b : Bool) : Node := ⟨.ofScalar (.flag b), some (if b then "true" else "false")⟩

/-- A floating-point number as it was written. -/
def real (x : Binary64) (written : List Char) : Node :=
  ⟨.ofScalar (.real x), some (String.ofList written)⟩

end Node

/-! ### Plain words -/

/-- An integer of 64 bits, in the base that its first two characters tell. -/
def integer? (cs : List Char) : Option Int :=
  match cs with
  | '0' :: 'x' :: ds => (ofRadix? 16 ds).map (fun n => (n : Int)) |>.filter fitsSigned64
  | '0' :: 'o' :: ds => (ofRadix? 8 ds).map (fun n => (n : Int)) |>.filter fitsSigned64
  | cs => signed64? cs

/-- The words for infinity and for what is no number. Nothing can be made of them. -/
def realWords : List String :=
  [".inf", ".Inf", ".INF", "+.inf", "+.Inf", "+.INF", "-.inf", "-.Inf", "-.INF",
    ".nan", ".NaN", ".NAN"]

/-- What a plain word stands for. -/
def resolve (cs : List Char) : Option Node :=
  let word := String.ofList cs
  if word ∈ ["", "~", "null"] then some .nil
  else if word = "true" then some (.flag true)
  else if word = "false" then some (.flag false)
  else if word ∈ realWords then none
  else
    match integer? cs, readReal? cs with
    | some n, _ => some (.integer n)
    | none, some x => some (.real x cs)
    | none, none => some (.text cs)

/-- What a plain word stands for under a tag. A word that does not fit its tag is no value. -/
def resolveAs (tag : String) (cs : List Char) : Option Node :=
  let word := String.ofList cs
  if tag = "!!bool" then
    some (if word = "true" then .flag true else if word = "false" then .flag false else .nil)
  else if tag = "!!int" then
    some (match signed64? cs with
      | some n => .integer n
      | none => .nil)
  else if tag = "!!float" then
    if word ∈ realWords then none
    else
      some (match readReal? cs with
        | some x => .real x cs
        | none => .nil)
  else if tag = "!!null" then some .nil
  else some (.text cs)

end Stagehand.Settings.Yaml
