import Mathlib.Data.List.DropRight
import Stagehand.Text.Blank

/-!
# Texts without blanks at their ends
Trimming takes the blanks off the two ends of a text and nothing else. What is left neither begins
nor ends with a blank, so that trimming it again leaves it alone.
-/

namespace Stagehand

/-- Characters that neither begin nor end with a blank. -/
structure IsTrim (cs : List Char) : Prop where
  first : ∀ c, cs.head? = some c → isBlank c = false
  last : ∀ c, cs.getLast? = some c → isBlank c = false

/-- What is left of some characters after the blanks at both ends. -/
structure Trims (cs ds : List Char) : Prop where
  around : ∃ before after, cs = before ++ ds ++ after ∧ (∀ c ∈ before, isBlank c = true) ∧
    ∀ c ∈ after, isBlank c = true
  isTrim : IsTrim ds

theorem trimBlanks_eq (cs : List Char) :
    trimBlanks cs = (cs.dropWhile isBlank).rdropWhile isBlank :=
  rfl

theorem head?_rdropWhile {α : Type} {p : α → Bool} {xs : List α} {x : α}
    (h : (xs.rdropWhile p).head? = some x) : xs.head? = some x := by
  obtain ⟨ys, hys⟩ := List.rdropWhile_prefix p xs
  rw [← hys, List.head?_append, h]
  rfl

theorem isTrim_trimBlanks (cs : List Char) : IsTrim (trimBlanks cs) where
  first c hc := by
    rw [trimBlanks_eq] at hc
    have hnot := List.head?_dropWhile_not isBlank cs
    rwa [head?_rdropWhile hc] at hnot
  last c hc := by
    rw [trimBlanks_eq] at hc
    obtain ⟨hne, rfl⟩ := List.mem_getLast?_eq_getLast hc
    simpa using List.rdropWhile_last_not isBlank _ hne

/-- Trimming takes off nothing but blanks, and all of them. -/
theorem trims_trimBlanks (cs : List Char) : Trims cs (trimBlanks cs) where
  around := by
    refine ⟨cs.takeWhile isBlank, (cs.dropWhile isBlank).rtakeWhile isBlank, ?_, ?_, ?_⟩
    · rw [trimBlanks_eq, List.append_assoc, List.rdropWhile_append_rtakeWhile,
        List.takeWhile_append_dropWhile]
    · exact fun c => List.mem_takeWhile_imp
    · exact fun c => List.mem_rtakeWhile_imp
  isTrim := isTrim_trimBlanks cs

/-- What has no blanks at its ends is left alone. -/
theorem IsTrim.trimBlanks_eq {cs : List Char} (h : IsTrim cs) : trimBlanks cs = cs := by
  have hfirst : cs.dropWhile isBlank = cs := by
    cases cs with
    | nil => rfl
    | cons c cs => exact List.dropWhile_cons_of_neg (by simp [h.first c rfl])
  rw [Stagehand.trimBlanks_eq, hfirst, List.rdropWhile_eq_self_iff]
  intro hne
  simp [h.last (cs.getLast hne) (List.getLast?_eq_some_getLast hne)]

theorem trimBlanks_eq_nil_iff {cs : List Char} :
    trimBlanks cs = [] ↔ ∀ c ∈ cs, isBlank c = true := by
  constructor
  · intro h
    obtain ⟨before, after, hcs, hbefore, hafter⟩ := (trims_trimBlanks cs).around
    rw [h, List.append_nil] at hcs
    subst hcs
    intro c hc
    rcases List.mem_append.mp hc with hc | hc
    · exact hbefore c hc
    · exact hafter c hc
  · intro h
    rw [trimBlanks_eq, List.dropWhile_eq_nil_iff.mpr h]
    rfl

/-! ### Optional texts -/

/-- What is kept of an optional text: what is left after the blanks at both ends, unless there is
nothing but blanks. -/
inductive Keeps : Option String → Option String → Prop
  | missing : Keeps none none
  | blank {s : String} (h : ∀ c ∈ s.toList, isBlank c = true) : Keeps (some s) none
  | text {s t : String} (h : Trims s.toList t.toList) (hne : t ≠ "") : Keeps (some s) (some t)

theorem nonBlank_eq_none_iff {s : String} :
    nonBlank s = none ↔ ∀ c ∈ s.toList, isBlank c = true := by
  rw [nonBlank, ← trimBlanks_eq_nil_iff]
  split <;> simp_all

theorem nonBlank_eq_some_iff {s t : String} :
    nonBlank s = some t ↔ trimBlanks s.toList = t.toList ∧ t ≠ "" := by
  rw [nonBlank]
  split
  · rename_i h
    rw [h]
    constructor
    · rintro ⟨⟩
    · rintro ⟨ht, hne⟩
      exact absurd (String.toList_eq_nil_iff.mp ht.symm) hne
  · rename_i h
    constructor
    · rintro ⟨⟩
      simpa using h
    · rintro ⟨ht, -⟩
      rw [ht, String.ofList_toList]

theorem keeps_nonBlank (o : Option String) : Keeps o (o.bind nonBlank) := by
  cases o with
  | none => exact .missing
  | some s =>
    rw [Option.bind_some]
    cases h : nonBlank s with
    | none => exact .blank (nonBlank_eq_none_iff.mp h)
    | some t =>
      obtain ⟨ht, hne⟩ := nonBlank_eq_some_iff.mp h
      exact .text (ht ▸ trims_trimBlanks s.toList) hne

/-- What is kept of a text is kept as it is. -/
theorem Keeps.bind_nonBlank {o o' : Option String} (h : Keeps o o') : o'.bind nonBlank = o' := by
  cases h with
  | missing => rfl
  | blank => rfl
  | text h hne => exact nonBlank_eq_some_iff.mpr ⟨h.isTrim.trimBlanks_eq, hne⟩

end Stagehand
