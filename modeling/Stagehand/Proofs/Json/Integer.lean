import Stagehand.Proofs.Json.RoundTrip

/-!
# Integers among numbers
A number is an integer just where it is written as one and fits into 64 bits. What is printed of any
other number cannot be taken for an integer.
-/

namespace Stagehand.Json

/-! ### Whole parts -/

theorem keepWhole_eq_zero {n : Nat} {ds : List Char} (hn : n ≤ maxUnsigned64)
    (h : (keepWhole n ds).2 = 0) :
    Numeral.valueFrom n ds ≤ maxUnsigned64 := by
  induction ds generalizing n with
  | nil => exact hn
  | cons c ds ih =>
    rw [keepWhole] at h
    split at h
    · rename_i hfits
      exact ih (of_decide_eq_true hfits) h
    · cases h

/-- No digit is left over of a whole part that fits. -/
theorem keepWhole_eq_zero_iff {ds : List Char} :
    (keepWhole 0 ds).2 = 0 ↔ Numeral.value ds ≤ maxUnsigned64 := by
  constructor
  · intro h
    exact keepWhole_eq_zero (Nat.zero_le _) h
  · intro h
    rw [keepWhole_of_le h]

/-! ### Literals -/

/-- The integer that the sign and the whole part of a number spell. -/
def Literal.integer (l : Literal) : Int :=
  if l.negative then -(Numeral.value l.whole : Int) else Numeral.value l.whole

/-- A number that is written as an integer: without a fraction and without an exponent, and not as
zero with a minus sign. -/
structure Literal.IsInteger (l : Literal) : Prop where
  fraction : l.fraction = []
  exponent : l.exponent = none
  nonzero : l.negative = true → l.integer ≠ 0

/-- A scaled number is never an integer, even where its value is whole. -/
theorem Literal.scaled?_ne_integer (negative : Bool) (m : Nat) (e : Int)
    (x : Option (Bool × List Char)) (n : Int) :
    scaled? negative m e x ≠ some (.integer n) := by
  have hreal (e : Int) : (realOf? negative m e).map Number.real ≠ some (.integer n) := by
    cases realOf? negative m e <;> simp
  cases x with
  | none => exact hreal e
  | some x =>
    obtain ⟨down, ds⟩ := x
    rw [scaled?]
    split
    · apply hreal
    · split <;> simp

theorem wholeNumber_eq_integer_iff {negative : Bool} {m : Nat} (hm : m ≤ maxUnsigned64) {n : Int} :
    wholeNumber negative m = .integer n ↔
      (if negative then -(m : Int) else m) = n ∧ (negative = true → n ≠ 0) ∧ IsInteger64 n := by
  rw [maxUnsigned64] at hm
  cases negative with
  | false =>
    simp only [wholeNumber, IsInteger64, Bool.not_false, if_true, Number.integer.injEq,
      Bool.false_eq_true, if_false, false_implies, true_and]
    omega
  | true =>
    simp only [wholeNumber, IsInteger64, Bool.not_true, Bool.false_eq_true, if_false, if_true,
      true_implies]
    split
    · simp only [Number.integer.injEq]
      omega
    · simp only [reduceCtorEq, false_iff]
      omega

/-- A number is an integer just where it is written as one of 64 bits. -/
theorem Literal.value?_eq_integer_iff {l : Literal} {n : Int} :
    l.value? = some (.integer n) ↔ l.IsInteger ∧ l.integer = n ∧ IsInteger64 n := by
  obtain ⟨negative, whole, fraction, exponent⟩ := l
  constructor
  · intro h
    simp only [value?] at h
    split at h
    · rename_i hplain
      obtain ⟨rfl, rfl, hleft⟩ := hplain
      have hle := keepWhole_eq_zero_iff.mp hleft
      rw [keepWhole_of_le hle, Option.some.injEq] at h
      obtain ⟨hn, hz, h64⟩ := (wholeNumber_eq_integer_iff hle).mp h
      exact ⟨⟨rfl, rfl, fun hneg h0 => hz hneg (hn.symm.trans h0)⟩, hn, h64⟩
    · exact absurd h (scaled?_ne_integer _ _ _ _ _)
  · rintro ⟨⟨rfl, rfl, hz⟩, rfl, h64⟩
    have hle : Numeral.value whole ≤ maxUnsigned64 := by
      obtain ⟨hlo, hhi⟩ := h64
      rw [maxUnsigned64]
      cases negative with
      | true => simp only [integer, if_true] at hlo; omega
      | false => simp only [integer, Bool.false_eq_true, if_false] at hhi; omega
    rw [value?_whole (keepWhole_eq_zero_iff.mpr hle), keepWhole_of_le hle]
    exact congrArg some ((wholeNumber_eq_integer_iff hle).mpr ⟨rfl, hz, h64⟩)

/-! ### Values that may be integers -/

/-- A value is an integer if it is a number that is one, or a string that spells one. -/
inductive Counts : Json → Int → Prop
  | number (n : Int) : Counts (.number (.integer n)) n
  | string {text : String} {n : Int} (h : Numeral.Signed text.toList n) : Counts (.string text) n

/-- What is written as an integer: a number without a fraction, an exponent or a minus sign on zero,
a string of digits behind a sign or none, or the embedded text of either. -/
inductive Writes (n : Int) : List Sym → List Sym → Prop
  | number {l : Literal} {s t r : List Sym} (hb : Blanks s t) (hl : l.Written t r)
      (hi : l.IsInteger) (hn : l.integer = n) : Writes n s r
  | string {text : String} {s r : List Sym} (ht : Text s text r)
      (hn : Numeral.Signed text.toList n) : Writes n s r
  | embedded {text : String} {s t u v w r : List Sym} (h : Mark '\x7b' s t)
      (hn : Name t embeddedName u) (ht : Text u text v) (hw : Writes n (Utf8.ofString text) w)
      (hb : Blanks w []) (hm : Mark '\x7d' v r) : Writes n s r

/-- What is written as an integer of 64 bits is read as it. -/
theorem Writes.spells {n : Int} {s r : List Sym} (h : Writes n s r) (hn : IsInteger64 n)
    (depth : Nat) : ∃ v, Spells (depth + 1) s v r ∧ Counts v n := by
  induction h generalizing depth with
  | number hb hl hi he =>
    exact ⟨_, .number hb hl (Literal.value?_eq_integer_iff.mpr ⟨hi, he, hn⟩), .number n⟩
  | string ht hs =>
    obtain ⟨t, hq, hl⟩ := ht
    exact ⟨_, .string hq hl, .string hs⟩
  | embedded h hn ht _ hb hm ih =>
    obtain ⟨v, hv, hc⟩ := ih 126
    exact ⟨v, .object h (.embedded hn ht (holds_iff.mpr ⟨_, hv, hb⟩) hm), hc⟩

theorem Shape.writes {A : List Sym → List Json → List Sym → Prop}
    {O : List Sym → Json → List Sym → Prop} {n : Int} {s r : List Sym} {v : Json}
    (h : Shape A O s v r) (hc : Counts v n)
    (hO : ∀ {t}, Mark '\x7b' s t → O t v r → Writes n s r) : Writes n s r := by
  cases h with
  | object h hv => exact hO h hv
  | number hb hl hn =>
    cases hc
    obtain ⟨hi, he, -⟩ := Literal.value?_eq_integer_iff.mp hn
    exact .number hb hl hi he
  | string hq hl =>
    cases hc with
    | string hs => exact .string ⟨_, hq, hl⟩ hs
  | null | yes | no | array => cases hc

theorem SpellsWith.writes {E : String → Json → Prop} {n : Int}
    (hE : ∀ {text v}, E text v → Counts v n → ∃ r, Writes n (Utf8.ofString text) r ∧ Blanks r [])
    {depth : Nat} {s r : List Sym} {v : Json} (h : SpellsWith E depth s v r) (hc : Counts v n) :
    Writes n s r := by
  cases depth with
  | zero => exact Shape.writes h hc fun _ h => h.elim
  | succ depth =>
    refine Shape.writes h hc fun hm hv => ?_
    cases hv with
    | members => cases hc
    | embedded hn ht hv hclose =>
      obtain ⟨w, hw, hb⟩ := hE hv hc
      exact .embedded hm hn ht hw hb hclose

/-- What is read as an integer is written as it. -/
theorem Spells.writes {n : Int} {depth : Nat} {s r : List Sym} {v : Json}
    (h : Spells depth s v r) (hc : Counts v n) : Writes n s r := by
  refine SpellsWith.writes (fun {text v} hv hc => ?_) h hc
  obtain ⟨k, hv⟩ := hv
  induction k generalizing text v with
  | zero => exact hv.elim
  | succ k ih =>
    obtain ⟨w, hw, hb⟩ := hv
    exact ⟨w, hw.writes (fun hv hc => ih hc hv) hc, hb⟩

theorem Counts.unique {v : Json} {m n : Int} (h : Counts v m) (h' : Counts v n) : m = n := by
  cases h with
  | number =>
    cases h'
    rfl
  | string hm =>
    cases h' with
    | string hn => exact hm.unique hn

/-! ### Printed numbers -/

/-- A printed decimal has a point or an exponent. -/
theorem mark_mem_decimalText (ds : List Char) (p : Int) :
    ∃ c ∈ Number.decimalText ds p, c = '.' ∨ c = 'e' := by
  simp only [Number.decimalText]
  split
  · exact ⟨'.', by simp, .inl rfl⟩
  split
  · exact ⟨'.', by simp, .inl rfl⟩
  split
  · exact ⟨'.', by simp, .inl rfl⟩
  · exact ⟨'e', by simp, .inr rfl⟩

/-- What is printed of a floating-point number has something in it that no integer has. -/
theorem mark_mem_realText (x : Binary64) :
    ∃ c ∈ Number.realText x, c = '.' ∨ c = 'e' ∨ c = 'n' := by
  cases x with
  | nan => exact ⟨'n', by simp [Number.realText], by decide⟩
  | infinite negative => exact ⟨'n', by simp [Number.realText], by decide⟩
  | finite negative m e =>
    simp only [Number.realText]
    by_cases hm : m = 0
    · exact ⟨'.', by simp [hm], by decide⟩
    · obtain ⟨c, hc, hmark⟩ := mark_mem_decimalText (Numeral.ofNat (Binary64.shortest m e).1)
        (Binary64.shortest m e).2
      refine ⟨c, ?_, hmark.imp_right .inl⟩
      rw [if_neg hm]
      exact List.mem_append_right _ hc

theorem not_signed_realText (x : Binary64) (n : Int) :
    ¬ Numeral.Signed (Number.realText x) n := by
  intro h
  obtain ⟨c, hc, hmark⟩ := mark_mem_realText x
  have hsign := h.mem hc
  rcases hmark with rfl | rfl | rfl <;> exact absurd hsign (by decide)

/-- What is printed of a number spells an integer just where the number is that integer. -/
theorem Number.signed_chars_iff {n : Number} {m : Int} :
    Numeral.Signed n.chars m ↔ n = .integer m := by
  cases n with
  | integer n =>
    simp only [chars, integer.injEq]
    constructor
    · intro h
      exact (Numeral.signed_ofInt n).unique h
    · rintro rfl
      exact Numeral.signed_ofInt n
  | real x => simp [chars, not_signed_realText]

end Stagehand.Json
