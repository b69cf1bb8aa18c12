import Mathlib.Data.List.Forall2
import Stagehand.Log.Severity
import Stagehand.Proofs.Text.Numeral

/-!
# What names a verbosity
A verbosity is named in letters of either case, or by its place on the scale with zeros in front and
perhaps a plus sign. No text names two of them.
-/

namespace Stagehand.Verbosity

/-- Characters that are the small letters of a name, or capitals instead of any of them. -/
def EitherCase (cs name : List Char) : Prop :=
  List.Forall₂ (fun c l => c = l ∨ c = l.toUpper) cs name

/-- What names a verbosity: its name, or its place on the scale. Nothing at all names errors. -/
inductive Names : List Char → Verbosity → Prop
  | nothing : Names [] error
  | word {cs : List Char} {v : Verbosity} (h : EitherCase cs v.name.toList) : Names cs v
  | place {cs : List Char} {v : Verbosity} (h : Numeral.Unsigned cs v.rank) : Names cs v

/-! ### Letters of either case -/

theorem toNat_toLower (c : Char) :
    c.toLower.toNat = if 65 ≤ c.toNat ∧ c.toNat ≤ 90 then c.toNat + 32 else c.toNat := by
  have hiff : c.val ≥ 'A'.val ∧ c.val ≤ 'Z'.val ↔ 65 ≤ c.toNat ∧ c.toNat ≤ 90 := Iff.rfl
  delta Char.toLower
  by_cases h : 65 ≤ c.toNat ∧ c.toNat ≤ 90
  · have hlt : c.toNat + 32 < 2 ^ 32 := by omega
    rw [dif_pos (hiff.mpr h), if_pos h]
    exact (UInt32.toNat_add _ _).trans (Nat.mod_eq_of_lt hlt)
  · rw [dif_neg (mt hiff.mp h), if_neg h]

theorem toNat_toUpper (c : Char) :
    c.toUpper.toNat = if 97 ≤ c.toNat ∧ c.toNat ≤ 122 then c.toNat - 32 else c.toNat := by
  have hiff : 'a'.val ≤ c.val ∧ c.val ≤ 'z'.val ↔ 97 ≤ c.toNat ∧ c.toNat ≤ 122 := Iff.rfl
  delta Char.toUpper
  by_cases h : 97 ≤ c.toNat ∧ c.toNat ≤ 122
  · -- 32 is taken away by adding what is 32 short of a whole turn.
    have hmod : (c.toNat + 4294967264) % 2 ^ 32 = c.toNat - 32 := by omega
    rw [dif_pos (hiff.mpr h), if_pos h]
    exact (UInt32.toNat_add _ _).trans hmod
  · rw [dif_neg (mt hiff.mp h), if_neg h]

theorem isLower_iff {l : Char} : l.isLower = true ↔ 97 ≤ l.toNat ∧ l.toNat ≤ 122 := by
  delta Char.isLower
  simp [UInt32.le_iff_toNat_le]

theorem toLower_eq_iff {c l : Char} (h : l.isLower = true) :
    c.toLower = l ↔ c = l ∨ c = l.toUpper := by
  rw [isLower_iff] at h
  rw [← Char.toNat_inj, ← Char.toNat_inj, ← Char.toNat_inj, toNat_toLower, toNat_toUpper,
    if_pos h]
  split
  · omega
  · omega

theorem eitherCase_iff {cs name : List Char} (h : ∀ l ∈ name, l.isLower = true) :
    EitherCase cs name ↔ folded cs = name := by
  induction name generalizing cs with
  | nil => simp [EitherCase, folded]
  | cons l name ih =>
    cases cs with
    | nil => simp [EitherCase, folded]
    | cons c cs =>
      obtain ⟨hl, hname⟩ := List.forall_mem_cons.mp h
      have htail : EitherCase cs name ↔ folded cs = name := ih hname
      simp only [EitherCase, folded] at htail
      simp only [EitherCase, folded, List.forall₂_cons, List.map_cons, List.cons.injEq,
        toLower_eq_iff hl, htail]

theorem isLower_name (v : Verbosity) : ∀ l ∈ v.name.toList, l.isLower = true := by
  cases v <;> simp [name]

theorem rank_injective : Function.Injective rank := by
  intro v w h
  cases v <;> cases w <;> first | rfl | cases h

theorem name_injective : Function.Injective name := by
  intro v w h
  cases v <;> cases w <;> simp [name] at h ⊢

/-- A verbosity is found by what it alone has. -/
theorem find?_all_iff {α : Type} [DecidableEq α] {f : Verbosity → α} (hf : Function.Injective f)
    {a : α} {v : Verbosity} : (all.find? fun w => f w = a) = some v ↔ f v = a := by
  constructor
  · intro h
    simpa using List.find?_some h
  · rintro rfl
    cases v <;> simp [all, hf.eq_iff]

/-! ### Reading -/

theorem EitherCase.not_isDigit {cs : List Char} {v : Verbosity}
    (h : EitherCase cs v.name.toList) {c : Char} (hc : c ∈ cs) : isDigit c = false := by
  have hmem : c.toLower ∈ v.name.toList := by
    rw [← (eitherCase_iff (isLower_name v)).mp h]
    exact List.mem_map_of_mem hc
  have hlower := isLower_iff.mp (isLower_name v _ hmem)
  rw [toNat_toLower] at hlower
  rw [isDigit, decide_eq_false_iff_not]
  rintro ⟨hlo, hhi⟩
  replace hlo : 48 ≤ c.toNat := hlo
  replace hhi : c.toNat ≤ 57 := hhi
  split at hlower
  · omega
  · omega

/-- A name is no numeral, since it is written in letters. -/
theorem EitherCase.natural?_eq_none {cs : List Char} {v : Verbosity}
    (h : EitherCase cs v.name.toList) : Numeral.natural? cs = none := by
  rw [Option.eq_none_iff_forall_ne_some]
  intro n hn
  obtain ⟨c, hc, hdigit⟩ := (Numeral.natural?_eq_some_iff.mp hn).exists_isDigit
  rw [h.not_isDigit hc] at hdigit
  cases hdigit

theorem EitherCase.ne_nil {cs : List Char} {v : Verbosity}
    (h : EitherCase cs v.name.toList) : cs ≠ [] := by
  rintro rfl
  cases v <;> simp [EitherCase, name] at h

/-- A text names just the verbosity that is read from it. -/
theorem ofText?_eq_some_iff {text : String} {v : Verbosity} :
    ofText? text = some v ↔ Names text.toList v := by
  have hname : Function.Injective fun v : Verbosity => v.name.toList :=
    fun v w h => name_injective (String.toList_injective h)
  rw [ofText?]
  generalize text.toList = cs
  constructor
  · intro h
    split at h
    · cases h
      exact .nothing
    split at h
    · rename_i n hn
      rw [find?_all_iff rank_injective] at h
      subst h
      exact .place (Numeral.natural?_eq_some_iff.mp hn)
    · rw [find?_all_iff hname, eq_comm, ← eitherCase_iff (isLower_name v)] at h
      exact .word h
  · intro h
    cases h with
    | nothing => rfl
    | word h =>
      obtain ⟨c, ds, rfl⟩ := List.exists_cons_of_ne_nil h.ne_nil
      simp only [h.natural?_eq_none]
      rw [find?_all_iff hname, (eitherCase_iff (isLower_name v)).mp h]
    | place h =>
      obtain ⟨c, hc, -⟩ := h.exists_isDigit
      obtain ⟨d, ds, rfl⟩ := List.exists_cons_of_ne_nil (List.ne_nil_of_mem hc)
      simp only [Numeral.natural?_eq_some_iff.mpr h]
      rw [find?_all_iff rank_injective]

end Stagehand.Verbosity
