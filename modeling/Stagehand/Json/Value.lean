import Stagehand.Number.Binary64

/-!
# JSON values
Numbers are integers where they are written as such and fit into 64 bits, and binary
floating-point numbers otherwise. The members of an object are kept in ascending order of their
names, each name once.
-/

namespace Stagehand

/-- A number of a JSON text. -/
inductive Json.Number
  | integer (n : Int)
  | real (x : Binary64)
deriving DecidableEq

/-- A JSON value. -/
inductive Json
  | null
  | bool (b : Bool)
  | number (n : Json.Number)
  | string (s : String)
  | array (items : List Json)
  | object (members : List (String × Json))

/-- Named entries in ascending order of their names. -/
abbrev Members (α : Type) := List (String × α)

namespace Members

variable {α : Type}

/-- Sets the entry of a name, replacing the one it may have. -/
def insert (name : String) (a : α) : Members α → Members α
  | [] => [(name, a)]
  | (n, b) :: ms =>
    if name < n then (name, a) :: (n, b) :: ms
    else if name = n then (name, a) :: ms
    else (n, b) :: insert name a ms

/-- The entry of a name. -/
def get? (name : String) : Members α → Option α
  | [] => none
  | (n, a) :: ms => if name = n then some a else get? name ms

theorem get?_insert (name other : String) (a : α) (ms : Members α) :
    get? other (insert name a ms) = if other = name then some a else get? other ms := by
  induction ms with
  | nil => simp [insert, get?]
  | cons m ms ih =>
    obtain ⟨n, b⟩ := m
    simp only [insert]
    split
    · simp [get?]
    · split
      · rename_i h
        subst h
        by_cases ho : other = name <;> simp [get?, ho]
      · rename_i h
        by_cases ho : other = n
        · subst ho
          simp [get?, Ne.symm h]
        · simp [get?, ho, ih]

@[simp] theorem get?_insert_self (name : String) (a : α) (ms : Members α) :
    get? name (insert name a ms) = some a := by
  simp [get?_insert]

theorem get?_insert_of_ne {name other : String} (h : other ≠ name) (a : α) (ms : Members α) :
    get? other (insert name a ms) = get? other ms := by
  simp [get?_insert, h]

/-- The names that have an entry. -/
def names (ms : Members α) : List String := ms.map Prod.fst

/-- Sets entries one after the other; of two with one name the later stays. -/
def extend (ms : Members α) (entries : List (String × α)) : Members α :=
  entries.foldl (fun ms (name, a) => insert name a ms) ms

/-- The entries of a list, of two with one name the later. -/
def ofList (entries : List (String × α)) : Members α := extend [] entries

end Members

end Stagehand
