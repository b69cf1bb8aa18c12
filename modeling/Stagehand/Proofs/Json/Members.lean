import Stagehand.Json.Value

/-!
# Members in their order
Named entries are kept in ascending order of their names. Entries that are given in that order are
kept as they are.
-/

namespace Stagehand.Members

variable {α : Type}

/-- Whether entries are in ascending order of their names, each name once. -/
def Ordered (ms : List (String × α)) : Prop := ms.Pairwise fun a b => a.1 < b.1

theorem insert_of_lt {name : String} {a : α} {ms : Members α} (h : ∀ m ∈ ms, m.1 < name) :
    insert name a ms = ms ++ [(name, a)] := by
  induction ms with
  | nil => rfl
  | cons m ms ih =>
    obtain ⟨n, b⟩ := m
    have hn : n < name := h (n, b) List.mem_cons_self
    rw [insert, if_neg (String.lt_asymm hn), if_neg, ih fun m hm => h m (.tail _ hm)]
    · rfl
    · rintro rfl
      exact String.lt_irrefl name hn

theorem extend_cons (ms : Members α) (name : String) (a : α) (entries : List (String × α)) :
    extend ms ((name, a) :: entries) = extend (insert name a ms) entries :=
  rfl

theorem extend_of_ordered {ms entries : List (String × α)} (h : Ordered (ms ++ entries)) :
    extend ms entries = ms ++ entries := by
  induction entries generalizing ms with
  | nil => exact (List.append_nil ms).symm
  | cons m entries ih =>
    obtain ⟨name, a⟩ := m
    have hlt : ∀ m ∈ ms, m.1 < name := fun m hm =>
      (List.pairwise_append.mp h).2.2 m hm (name, a) List.mem_cons_self
    have hcons : ms ++ (name, a) :: entries = (ms ++ [(name, a)]) ++ entries := by
      rw [List.append_assoc]
      rfl
    rw [hcons] at h ⊢
    rw [extend_cons, insert_of_lt hlt, ih h]

/-- Entries in their order are what they are kept as. -/
theorem ofList_of_ordered {entries : List (String × α)} (h : Ordered entries) :
    ofList entries = entries :=
  extend_of_ordered h

end Stagehand.Members
