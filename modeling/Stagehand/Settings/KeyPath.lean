import Stagehand.Settings.Tree

/-!
# Paths to settings
A source names its settings by paths such as `cache.url` or `cache[0]`. What is no path is the
name of an entry as it stands.
-/

namespace Stagehand.Settings

/-- One step down from a tree. -/
inductive Step
  | name (s : String)
  | index (i : Int)
deriving DecidableEq

/-- Where a setting is, from the root down. -/
abbrev KeyPath := List Step

namespace KeyPath

/-- Whether a character may stand in a name of a path. -/
def isNameChar (c : Char) : Bool :=
  ('a' ≤ c ∧ c ≤ 'z') ∨ ('A' ≤ c ∧ c ≤ 'Z') ∨ isDigit c ∨ c = '_' ∨ c = '-'

/-- The name that a text begins with, and the rest. -/
def nameOf? (cs : List Char) : Option (String × List Char) :=
  match cs.takeWhile isNameChar with
  | [] => none
  | name => some (String.ofList name, cs.dropWhile isNameChar)

/-- An index of a path: digits, possibly with a minus sign, that fit into 64 bits. -/
def indexOf? (cs : List Char) : Option Int :=
  match cs with
  | '+' :: _ => none
  | _ => signed64? cs

/-- The steps that a text spells, at most `fuel` of them. -/
def stepsOf? : (fuel : Nat) → List Char → Option (List Step)
  | _, [] => some []
  | 0, _ => none
  | fuel + 1, '.' :: cs =>
    match nameOf? cs with
    | none => none
    | some (name, rest) => (stepsOf? fuel rest).map fun steps => .name name :: steps
  | fuel + 1, '[' :: cs =>
    match indexOf? (cs.takeWhile (· != ']')), cs.dropWhile (· != ']') with
    | some i, _ :: rest => (stepsOf? fuel rest).map fun steps => .index i :: steps
    | _, _ => none
  | _ + 1, _ => none

/-- The path that a text spells. -/
def ofText? (s : String) : Option KeyPath :=
  match nameOf? s.toList with
  | none => none
  | some (name, rest) => (stepsOf? s.length rest).map fun steps => .name name :: steps

/-- The path of a setting that a source names so. -/
def ofKey (s : String) : KeyPath := (ofText? s).getD [.name s]

end KeyPath

namespace Tree

/-- A tree with what stands at a path changed. -/
def modifyAt (f : Tree → Tree) : KeyPath → Tree → Tree
  | [], t => f t
  | .name n :: path, t => t.modifyEntry n (modifyAt f path)
  | .index i :: path, t => t.modifyItem i (modifyAt f path)

/-- Lays what a source supplies under its keys over a tree, one key after the other. -/
def supply (settings : List (String × Tree)) (below : Tree) : Tree :=
  settings.foldl (fun t (key, value) => t.modifyAt value.overlay (KeyPath.ofKey key)) below

end Tree

end Stagehand.Settings
