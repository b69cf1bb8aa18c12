import Stagehand.Json.Value

/-!
# Trees of settings
What the sources of settings supply: single values, lists and tables, each with the place that it
comes from. Laying one tree over another replaces what stands at the same names; tables are laid
over each other entry by entry, and a table that has been laid over comes from no single place.
-/

namespace Stagehand.Settings

/-- A single value. -/
inductive Scalar
  | nil
  | flag (b : Bool)
  | integer (n : Int)
  | real (x : Binary64)
  | text (s : String)
deriving DecidableEq

/-- A value of any shape, with the place it comes from. -/
inductive Tree
  | leaf (origin : Option String) (s : Scalar)
  | list (origin : Option String) (items : List Tree)
  | table (origin : Option String) (entries : List (String × Tree))

namespace Tree

/-- A single value from no place. -/
def ofScalar (s : Scalar) : Tree := leaf none s

/-- A text from no place. -/
def ofText (s : String) : Tree := ofScalar (.text s)

/-- The absence of a value. -/
def nil : Tree := ofScalar .nil

/-- A list from no place. -/
def ofList (items : List Tree) : Tree := list none items

/-- A table from no place; of two entries with one name the later counts. -/
def ofEntries (entries : List (String × Tree)) : Tree := table none (Members.ofList entries)

/-- The place that a tree comes from. -/
def origin : Tree → Option String
  | leaf o _ => o
  | list o _ => o
  | table o _ => o

/-- The entries of a table. -/
def entries? : Tree → Option (Members Tree)
  | table _ es => some es
  | _ => none

mutual

/-- The same tree, all of it from one place. -/
def located (place : String) : Tree → Tree
  | leaf _ s => leaf (some place) s
  | list _ items => list (some place) (locatedItems place items)
  | table _ es => table (some place) (locatedEntries place es)

/-- The same trees, all from one place. -/
def locatedItems (place : String) : List Tree → List Tree
  | [] => []
  | t :: ts => t.located place :: locatedItems place ts

/-- The same entries, all from one place. -/
def locatedEntries (place : String) : List (String × Tree) → List (String × Tree)
  | [] => []
  | (n, t) :: es => (n, t.located place) :: locatedEntries place es

end

/-! ### Laying over -/

/-- What a tree counts as where a table is needed. -/
def asTable : Tree → Option String × Members Tree
  | table o es => (o, es)
  | _ => (none, [])

/-- What a tree counts as where a list is needed. -/
def asList : Tree → Option String × List Tree
  | list o items => (o, items)
  | _ => (none, [])

/-- A table with one entry changed. -/
def modifyEntry (name : String) (f : Tree → Tree) (t : Tree) : Tree :=
  let (o, es) := t.asTable
  table o (es.insert name (f ((es.get? name).getD nil)))

/-- The entry of a name, if a tree is a table that has it. -/
def child? (t : Tree) (name : String) : Option Tree := t.asTable.2.get? name

@[simp] theorem child?_modifyEntry_self (t : Tree) (name : String) (f : Tree → Tree) :
    (t.modifyEntry name f).child? name = some (f ((t.child? name).getD nil)) := by
  simp [child?, modifyEntry, asTable]

theorem child?_modifyEntry_of_ne {name other : String} (h : other ≠ name) (t : Tree)
    (f : Tree → Tree) : (t.modifyEntry name f).child? other = t.child? other := by
  simp [child?, modifyEntry, asTable, Members.get?_insert_of_ne h]

/-- A list that is long enough to have an item at an index, and the place of that item. Negative
indices count from the end. -/
def reachIndex (items : List Tree) (i : Int) : List Tree × Nat :=
  if 0 ≤ i then
    (items ++ List.replicate (i.toNat + 1 - items.length) nil, i.toNat)
  else if i.natAbs ≤ items.length then (items, items.length - i.natAbs)
  else (List.replicate (i.natAbs - items.length) nil ++ items, 0)

/-- A list with one item changed. -/
def modifyItem (i : Int) (f : Tree → Tree) (t : Tree) : Tree :=
  let (o, items) := t.asList
  let (items, place) := reachIndex items i
  list o (items.modify place f)

mutual

/-- Lays a tree over another. -/
def overlay : Tree → Tree → Tree
  | leaf o s, _ => leaf o s
  | list o items, _ => list o items
  | table _ es, below =>
    let (o, below) := below.asTable
    overlayEntries es (table o below)

/-- Lays entries over those of a table, one after the other. -/
def overlayEntries : List (String × Tree) → Tree → Tree
  | [], below => below
  | (n, t) :: es, below => overlayEntries es (below.modifyEntry n t.overlay)

end

end Tree

end Stagehand.Settings
