import Mathlib.Algebra.Group.Nat.Units
import Stagehand.Text.Numeral

/-!
# Numerals are read as they are written
The digits of a number spell it, and so does a sign with them. There are no zeros in front.
-/

namespace Stagehand

namespace Numeral

theorem isDigit_eq (c : Char) : isDigit c = c.isDigit := by
  rw [isDigit, Char.isDigit, Bool.decide_and]
  rfl

@[simp] theorem value_ofNat (n : Nat) : value (ofNat n) = n :=
  Nat.ofDigitChars_ten_toDigits

@[simp] theorem ofNat_ne_nil (n : Nat) : ofNat n ≠ [] :=
  Nat.toDigits_ne_nil

theorem isDigit_of_mem_ofNat {n : Nat} {c : Char} (h : c ∈ ofNat n) : isDigit c = true := by
  rw [isDigit_eq]
  exact Nat.isDigit_of_mem_toDigits (by decide) (by decide) h

/-- Only the number zero begins with the digit zero. -/
theorem head_ofNat {n : Nat} (h : n ≠ 0) : ∃ d ds, ofNat n = d :: ds ∧ d ≠ '0' := by
  induction n using Nat.strongRecOn with
  | _ n ih =>
    by_cases hn : n < 10
    · refine ⟨n.digitChar, [], Nat.toDigits_of_lt_base hn, ?_⟩
      rwa [Ne, Nat.digitChar_eq_zero]
    · have hlt : n / 10 < n := Nat.div_lt_self (Nat.pos_of_ne_zero h) (by decide)
      obtain ⟨d, ds, hd, hne⟩ := ih (n / 10) hlt (by omega)
      refine ⟨d, ds ++ [(n % 10).digitChar], ?_, hne⟩
      rw [ofNat, Nat.toDigits_of_base_le (by decide) (Nat.le_of_not_lt hn), ← ofNat, hd]
      rfl

@[simp] theorem digits?_ofNat (n : Nat) : digits? (ofNat n) = some n := by
  rw [digits?, if_pos, value_ofNat]
  exact ⟨ofNat_ne_nil n, List.all_eq_true.mpr fun c => isDigit_of_mem_ofNat⟩

/-- A numeral of a number has no sign. -/
theorem ofNat_ne_cons {n : Nat} {c : Char} (hc : isDigit c = false) (cs : List Char) :
    ofNat n ≠ c :: cs := by
  intro h
  have hd : isDigit c = true := isDigit_of_mem_ofNat (h ▸ List.mem_cons_self)
  rw [hc] at hd
  cases hd

@[simp] theorem integer?_ofInt (n : Int) : integer? (ofInt n) = some n := by
  cases n with
  | ofNat n =>
    rw [ofInt, integer?, natural?, digits?_ofNat]
    · rfl
    · intro cs h
      exact ofNat_ne_cons (by decide) cs h
    · intro cs h
      exact ofNat_ne_cons (by decide) cs h
  | negSucc n =>
    rw [ofInt, integer?, digits?_ofNat]
    rfl

/-- A number spelled by one or more digits, perhaps behind a plus sign. Zeros may stand in front. -/
inductive Unsigned : List Char → Nat → Prop
  | plain {ds : List Char} (hne : ds ≠ []) (hd : ∀ c ∈ ds, isDigit c = true) :
    Unsigned ds (value ds)
  | plus {ds : List Char} (hne : ds ≠ []) (hd : ∀ c ∈ ds, isDigit c = true) :
    Unsigned ('+' :: ds) (value ds)

theorem Unsigned.exists_isDigit {cs : List Char} {n : Nat} (h : Unsigned cs n) :
    ∃ c ∈ cs, isDigit c = true := by
  cases h with
  | plain hne hd =>
    obtain ⟨c, hc⟩ := List.exists_mem_of_ne_nil _ hne
    exact ⟨c, hc, hd c hc⟩
  | plus hne hd =>
    obtain ⟨c, hc⟩ := List.exists_mem_of_ne_nil _ hne
    exact ⟨c, .tail _ hc, hd c hc⟩

/-- An integer spelled by one or more digits behind a sign or none. Zeros may stand in front. -/
inductive Signed : List Char → Int → Prop
  | plain {ds : List Char} (hne : ds ≠ []) (hd : ∀ c ∈ ds, isDigit c = true) : Signed ds (value ds)
  | plus {ds : List Char} (hne : ds ≠ []) (hd : ∀ c ∈ ds, isDigit c = true) :
    Signed ('+' :: ds) (value ds)
  | minus {ds : List Char} (hne : ds ≠ []) (hd : ∀ c ∈ ds, isDigit c = true) :
    Signed ('-' :: ds) (-(value ds))

theorem digits?_eq_some_iff {cs : List Char} {n : Nat} :
    digits? cs = some n ↔ cs ≠ [] ∧ (∀ c ∈ cs, isDigit c = true) ∧ value cs = n := by
  rw [digits?, ← List.all_eq_true, ← and_assoc]
  split
  · rename_i h
    simp only [Option.some.injEq, h, ne_eq, not_false_eq_true, and_self, true_and]
  · rename_i h
    simp only [reduceCtorEq, h, false_and]

/-- A number is read from just the texts that spell it. -/
theorem natural?_eq_some_iff {cs : List Char} {n : Nat} : natural? cs = some n ↔ Unsigned cs n := by
  constructor
  · intro h
    unfold natural? at h
    split at h
    · obtain ⟨hne, hd, rfl⟩ := digits?_eq_some_iff.mp h
      exact .plus hne hd
    · obtain ⟨hne, hd, rfl⟩ := digits?_eq_some_iff.mp h
      exact .plain hne hd
  · intro h
    cases h with
    | plain hne hd =>
      rw [natural?, digits?_eq_some_iff.mpr ⟨hne, hd, rfl⟩]
      rintro ds rfl
      exact absurd (hd '+' List.mem_cons_self) (by decide)
    | plus hne hd => exact digits?_eq_some_iff.mpr ⟨hne, hd, rfl⟩

theorem map_cast_eq_some_iff {f : Int → Int} {o : Option Nat} {n : Int} :
    (do let m ← o; pure (m : Int)).map f = some n ↔ ∃ m, o = some m ∧ f m = n := by
  cases o with
  | none => simp
  | some m => simp

/-- An integer is read from just the texts that spell it. -/
theorem integer?_eq_some_iff {cs : List Char} {n : Int} : integer? cs = some n ↔ Signed cs n := by
  constructor
  · intro h
    unfold integer? at h
    split at h
    · obtain ⟨m, hm, rfl⟩ := map_cast_eq_some_iff.mp h
      obtain ⟨hne, hd, rfl⟩ := digits?_eq_some_iff.mp hm
      exact .minus hne hd
    · obtain ⟨m, hm, rfl⟩ := map_cast_eq_some_iff.mp h
      unfold natural? at hm
      split at hm
      · obtain ⟨hne, hd, rfl⟩ := digits?_eq_some_iff.mp hm
        exact .plus hne hd
      · obtain ⟨hne, hd, rfl⟩ := digits?_eq_some_iff.mp hm
        exact .plain hne hd
  · intro h
    cases h with
    | plain hne hd =>
      -- what begins with a digit begins with neither sign
      have hsign {c : Char} {ds : List Char} (hc : isDigit c = false) : cs ≠ c :: ds := by
        rintro rfl
        rw [hd c List.mem_cons_self] at hc
        cases hc
      have hdigits := digits?_eq_some_iff.mpr ⟨hne, hd, rfl⟩
      rw [integer?, natural?, hdigits]
      · rfl
      · intro ds
        exact hsign (by decide)
      · intro ds
        exact hsign (by decide)
    | plus hne hd =>
      rw [integer?, natural?, digits?_eq_some_iff.mpr ⟨hne, hd, rfl⟩]
      · rfl
      · intro ds h
        cases h
    | minus hne hd =>
      rw [integer?, digits?_eq_some_iff.mpr ⟨hne, hd, rfl⟩]
      rfl

theorem Signed.unique {cs : List Char} {m n : Int} (h : Signed cs m) (h' : Signed cs n) :
    m = n := by
  rw [← integer?_eq_some_iff] at h h'
  exact Option.some.inj (h.symm.trans h')

theorem signed_ofInt (n : Int) : Signed (ofInt n) n :=
  integer?_eq_some_iff.mp (integer?_ofInt n)

/-- What spells an integer has digits in it, and perhaps a sign. -/
theorem Signed.mem {cs : List Char} {n : Int} (h : Signed cs n) {c : Char} (hc : c ∈ cs) :
    isDigit c = true ∨ c = '+' ∨ c = '-' := by
  cases h with
  | plain _ hd => exact .inl (hd c hc)
  | plus _ hd =>
    rcases List.mem_cons.mp hc with rfl | hc
    · exact .inr (.inl rfl)
    · exact .inl (hd c hc)
  | minus _ hd =>
    rcases List.mem_cons.mp hc with rfl | hc
    · exact .inr (.inr rfl)
    · exact .inl (hd c hc)

/-- The numeral of an integer is its usual one. -/
theorem ofList_ofInt (n : Int) : String.ofList (ofInt n) = toString n := by
  cases n with
  | ofNat n => rfl
  | negSucc n =>
    have h : toString (Int.negSucc n) = "-" ++ toString (n + 1) := rfl
    rw [h, Nat.toString_eq_ofList_toDigits, ofInt, String.ofList_cons]
    rfl

/-! ### Padding -/

@[simp] theorem value_padded (width n : Nat) : value (padded width n) = n := by
  have hzeros : value (List.replicate (width - (ofNat n).length) '0') = 0 := by
    rw [value, valueFrom]
    exact Nat.ofDigitChars_replicate_zero
  calc value (padded width n)
    _ = valueFrom (value (List.replicate (width - (ofNat n).length) '0')) (ofNat n) :=
      List.foldl_append
    _ = n := by rw [hzeros, ← value, value_ofNat]

theorem isDigit_of_mem_padded {width n : Nat} {c : Char} (h : c ∈ padded width n) :
    isDigit c = true := by
  rcases List.mem_append.mp h with h | h
  · rw [List.eq_of_mem_replicate h]
    rfl
  · exact isDigit_of_mem_ofNat h

theorem length_padded (width n : Nat) :
    (padded width n).length = max width (ofNat n).length := by
  simp only [padded, List.length_append, List.length_replicate]
  omega

/-- A number that is not too large for its places fills just these. -/
theorem length_padded_of_lt {width n : Nat} (hw : 0 < width) (h : n < 10 ^ width) :
    (padded width n).length = width := by
  rw [length_padded, Nat.max_eq_left]
  exact (Nat.length_toDigits_le_iff (by decide) hw).mpr h

/-- Zeros at the end are places of their own. -/
theorem value_append_zeros (ds : List Char) (k : Nat) :
    value (ds ++ List.replicate k '0') = value ds * 10 ^ k := by
  calc value (ds ++ List.replicate k '0')
    _ = Nat.ofDigitChars 10 (List.replicate k '0') (value ds) := List.foldl_append
    _ = value ds * 10 ^ k := by rw [Nat.ofDigitChars_replicate_zero, Nat.mul_comm]

end Numeral

/-- Whether an integer is one of 64 bits with a sign. -/
def IsSigned64 (n : Int) : Prop := -0x8000000000000000 ≤ n ∧ n ≤ 0x7fffffffffffffff

instance (n : Int) : Decidable (IsSigned64 n) := inferInstanceAs (Decidable (_ ∧ _))

theorem fitsSigned64_iff {n : Int} : fitsSigned64 n = true ↔ IsSigned64 n :=
  decide_eq_true_iff

/-- An integer of 64 bits with a sign is read from just the texts that spell one. -/
theorem signed64?_eq_some_iff {cs : List Char} {n : Int} :
    signed64? cs = some n ↔ Numeral.Signed cs n ∧ IsSigned64 n := by
  rw [signed64?, Option.filter_eq_some_iff, Numeral.integer?_eq_some_iff, fitsSigned64_iff]

end Stagehand
