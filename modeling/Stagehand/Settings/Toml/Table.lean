import Stagehand.Settings.Tree

/-!
# Tables in TOML
A document fills its tables piece by piece. How a table came about decides what may be added to
it: a header opens a table once, and a dotted key adds only to tables that dotted keys have made.
-/

namespace Stagehand.Settings.Toml

/-- How a table came about. -/
inductive Making
  /-- A header named it. -/
  | opened
  /-- A dotted key of an entry went through it. -/
  | dotted
  /-- A header went through it. -/
  | implied
deriving DecidableEq

/-- What stands under a key while a document is read. -/
inductive Node
  | closed (t : Tree)
  | table (made : Making) (entries : List (String × Node))
  /-- A list of tables, the last of them apart and the others backwards. -/
  | tables (last : List (String × Node)) (before : List (List (String × Node)))

/-- Changes the table at a path. Tables that are missing on the way are made. -/
def descend (dotted : Bool) (f : Making → Members Node → Option (Members Node)) :
    List String → Making → Members Node → Option (Members Node)
  | [], made, es => f made es
  | name :: path, _, es =>
    let put (node : Members Node → Node) (inner : Option (Members Node)) : Option (Members Node) :=
      inner.map fun inner => Members.insert name (node inner) es
    match Members.get? name es with
    | none =>
      let made : Making := if dotted then .dotted else .implied
      put (.table made) (descend dotted f path made [])
    | some (.closed _) => none
    | some (.table made inner) =>
      if dotted ∧ made = .opened then none
      else put (.table made) (descend dotted f path made inner)
    | some (.tables last before) => put (.tables · before) (descend dotted f path .opened last)

/-- Adds an entry under a dotted key to a table. -/
def addEntry (key : List String) (t : Tree) (made : Making) (es : Members Node) :
    Option (Members Node) :=
  match key.reverse with
  | [] => none
  | name :: path =>
    let put (made : Making) (es : Members Node) : Option (Members Node) :=
      if decide (made = .dotted) = path.isEmpty then none
      else if (Members.get? name es).isSome then none
      else some (Members.insert name (.closed t) es)
    descend true put path.reverse made es

/-- Opens a table under a header. -/
def openTable (header : List String) (root : Members Node) : Option (Members Node) :=
  match header.reverse with
  | [] => none
  | name :: path =>
    let put (_ : Making) (es : Members Node) : Option (Members Node) :=
      match Members.get? name es with
      | none => some (Members.insert name (.table .opened []) es)
      | some (.table .implied inner) => some (Members.insert name (.table .opened inner) es)
      | some _ => none
    descend false put path.reverse .opened root

/-- Opens one more table of a list of tables under a header. -/
def openItem (header : List String) (root : Members Node) : Option (Members Node) :=
  match header.reverse with
  | [] => none
  | name :: path =>
    let put (_ : Making) (es : Members Node) : Option (Members Node) :=
      match Members.get? name es with
      | none => some (Members.insert name (.tables [] []) es)
      | some (.tables last before) => some (Members.insert name (.tables [] (last :: before)) es)
      | some _ => none
    descend false put path.reverse .opened root

mutual

/-- The tree of a node. -/
def Node.tree : Node → Tree
  | .closed t => t
  | .table _ es => .table none (treeEntries es)
  | .tables last before => .list none (treeTables before ++ [.table none (treeEntries last)])

/-- The trees of named nodes. -/
def treeEntries : List (String × Node) → List (String × Tree)
  | [] => []
  | (name, node) :: es => (name, node.tree) :: treeEntries es

/-- The trees of tables that are listed backwards. -/
def treeTables : List (List (String × Node)) → List Tree
  | [] => []
  | es :: before => treeTables before ++ [.table none (treeEntries es)]

end

end Stagehand.Settings.Toml
