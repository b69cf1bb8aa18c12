import Mathlib.Data.List.Sort
import Stagehand.Proofs.Json.Members

/-!
# What is found under a name
Of members in their order there is one for each name, so that what is found under the names tells
all of them. Members stay in their order when more of them are set, and the later one is found.
-/

namespace Stagehand.Members

variable {α : Type}

theorem mem_of_get?_eq_some {name : String} {a : α} {ms : Members α} (h : get? name ms = some a) :
    (name, a) ∈ ms := by
  induction ms with
  | nil => cases h
  | cons m ms ih =>
    obtain ⟨n, b⟩ := m
    rw [get?] at h
    split at h
    · rename_i hn
      cases h
      rw [hn]
      exact .head _
    · exact .tail _ (ih h)

theorem get?_isSome_iff {name : String} {ms : Members α} :
    (get? name ms).isSome ↔ name ∈ names ms := by
  induction ms with
  | nil => simp [get?, names]
  | cons m ms ih =>
    obtain ⟨n, b⟩ := m
    by_cases hn : name = n
    · simp [get?, names, hn]
    · rw [get?, if_neg hn, ih]
      simp [names, hn]

theorem Ordered.tail {m : String × α} {ms : List (String × α)} (h : Ordered (m :: ms)) :
    Ordered ms :=
  List.Pairwise.of_cons h

theorem Ordered.get?_eq_some_iff {name : String} {a : α} {ms : List (String × α)}
    (h : Ordered ms) : get? name ms = some a ↔ (name, a) ∈ ms := by
  constructor
  · exact mem_of_get?_eq_some
  · intro hm
    induction ms with
    | nil => cases hm
    | cons m ms ih =>
      obtain ⟨n, b⟩ := m
      rw [get?]
      rcases List.mem_cons.mp hm with he | hm
      · cases he
        exact if_pos rfl
      · have hn : n < name := List.rel_of_pairwise_cons h hm
        rw [if_neg (String.ne_of_lt hn).symm, ih h.tail hm]

/-- Entries in their order are known by what is found under each name. -/
theorem Ordered.ext {ms ms' : List (String × α)} (h : Ordered ms) (h' : Ordered ms')
    (hget : ∀ name, get? name ms = get? name ms') : ms = ms' := by
  have hirrefl : Std.Irrefl fun a b : String × α => a.1 < b.1 := ⟨fun a => String.lt_irrefl a.1⟩
  have hantisymm : Std.Antisymm fun a b : String × α => a.1 < b.1 :=
    ⟨fun a b hab hba => absurd hba (String.lt_asymm hab)⟩
  apply List.Pairwise.eq_of_mem_iff h h'
  intro m
  obtain ⟨name, a⟩ := m
  rw [← h.get?_eq_some_iff, ← h'.get?_eq_some_iff, hget]

/-! ### Entries that are set -/

theorem mem_insert {name : String} {a : α} {m : String × α} {ms : Members α}
    (h : m ∈ insert name a ms) : m = (name, a) ∨ m ∈ ms := by
  induction ms with
  | nil => exact .inl (List.mem_singleton.mp h)
  | cons m' ms ih =>
    obtain ⟨n, b⟩ := m'
    rw [insert] at h
    split at h
    · exact List.mem_cons.mp h
    split at h
    · exact (List.mem_cons.mp h).imp_right (.tail _)
    · rcases List.mem_cons.mp h with rfl | h
      · exact .inr (.head _)
      · exact (ih h).imp_right (.tail _)

theorem Ordered.insert {ms : List (String × α)} (h : Ordered ms) (name : String) (a : α) :
    Ordered (Members.insert name a ms) := by
  induction ms with
  | nil => exact List.pairwise_singleton _ _
  | cons m ms ih =>
    obtain ⟨n, b⟩ := m
    rw [Members.insert]
    split
    · rename_i hlt
      refine List.pairwise_cons.mpr ⟨?_, h⟩
      intro m hm
      rcases List.mem_cons.mp hm with rfl | hm
      · exact hlt
      · exact String.lt_trans hlt (List.rel_of_pairwise_cons h hm)
    split
    · rename_i heq
      subst heq
      exact List.pairwise_cons.mpr ⟨fun m hm => List.rel_of_pairwise_cons h hm, h.tail⟩
    · rename_i hlt hne
      refine List.pairwise_cons.mpr ⟨?_, ih h.tail⟩
      intro m hm
      rcases mem_insert hm with rfl | hm
      · exact Std.lt_of_le_of_ne (String.not_lt.mp hlt) (Ne.symm hne)
      · exact List.rel_of_pairwise_cons h hm

theorem mem_extend {m : String × α} {entries : List (String × α)} {ms : Members α}
    (h : m ∈ extend ms entries) : m ∈ entries ∨ m ∈ ms := by
  induction entries generalizing ms with
  | nil => exact .inr h
  | cons e entries ih =>
    rcases ih h with h | h
    · exact .inl (.tail _ h)
    · rcases mem_insert h with rfl | h
      · exact .inl (.head _)
      · exact .inr h

theorem Ordered.extend {ms : List (String × α)} (h : Ordered ms) (entries : List (String × α)) :
    Ordered (Members.extend ms entries) := by
  induction entries generalizing ms with
  | nil => exact h
  | cons m entries ih => exact ih (h.insert m.1 m.2)

theorem get?_extend_of_notMem {name : String} {entries : List (String × α)}
    (h : name ∉ names entries) (ms : Members α) :
    get? name (extend ms entries) = get? name ms := by
  induction entries generalizing ms with
  | nil => rfl
  | cons m entries ih =>
    obtain ⟨n, b⟩ := m
    obtain ⟨hn, h⟩ := not_or.mp (mt List.mem_cons.mpr h)
    rw [extend_cons, ih h, get?_insert_of_ne hn]

/-- Of entries in their order, each one counts, and before what was there. -/
theorem Ordered.get?_extend {entries : List (String × α)} (h : Ordered entries) (name : String)
    (ms : Members α) :
    get? name (Members.extend ms entries) = (get? name entries).or (get? name ms) := by
  induction entries generalizing ms with
  | nil => rfl
  | cons m entries ih =>
    obtain ⟨n, b⟩ := m
    rw [extend_cons, get?]
    by_cases hn : name = n
    · subst hn
      have hnot : name ∉ names entries := by
        intro hm
        obtain ⟨m, hm, hname⟩ := List.mem_map.mp hm
        have hlt : name < m.1 := List.rel_of_pairwise_cons h hm
        exact String.lt_irrefl name (hname ▸ hlt)
      rw [get?_extend_of_notMem hnot, get?_insert_self, if_pos rfl, Option.some_or]
    · rw [ih h.tail, get?_insert_of_ne hn, if_neg hn]

end Stagehand.Members
