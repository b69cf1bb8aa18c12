import Stagehand.Url.Punycode

/-!
# What Punycode is written with
A text in Punycode has none but characters of the text itself, hyphens and digits.
-/

namespace Stagehand.Punycode

/-- Every value of a digit has a digit. -/
theorem digit?_digitChar {d : Nat} (h : d < base) : digit? (digitChar d) = some d := by
  have hall : ∀ e : Fin base, digit? (digitChar e) = some e.val := by decide
  exact hall ⟨d, h⟩

theorem threshold_le (k bias : Nat) : threshold k bias ≤ maxThreshold := by
  have hmin : min maxThreshold (k - bias) ≤ maxThreshold := Nat.min_le_left _ _
  exact Nat.max_le.mpr ⟨by decide, hmin⟩

/-- Numbers are written in digits. -/
theorem isSome_digit?_of_mem_numberDigits {c : Char} {bias q k : Nat}
    (h : c ∈ numberDigits bias q k) : (digit? c).isSome := by
  induction q, k using numberDigits.induct bias with
  | case1 q k t hq =>
    have ht : t ≤ 26 := threshold_le k bias
    rw [numberDigits, if_pos hq, List.mem_singleton] at h
    have hd : q < base := by
      rw [base]
      omega
    rw [h, digit?_digitChar hd, Option.isSome_some]
  | case2 q k t hq ih =>
    have ht : t ≤ 26 := threshold_le k bias
    rw [numberDigits, if_neg hq] at h
    rcases List.mem_cons.mp h with rfl | h
    · have hmod : (q - t) % (base - t) < base - t := by
        apply Nat.mod_lt
        rw [base]
        omega
      have hd : t + (q - t) % (base - t) < base := by omega
      rw [digit?_digitChar hd, Option.isSome_some]
    · exact ih h

/-- What may stand in the Punycode of a text. -/
def Written (cs : List Char) (c : Char) : Prop := c ∈ cs ∨ c = '-' ∨ (digit? c).isSome

variable {cs : List Char}

theorem Progress.pass_written {first n : Nat} {p : Progress} (h : ∀ c ∈ p.out, Written cs c)
    (d : Char) : ∀ c ∈ (p.pass first n d).out, Written cs c := by
  intro c hc
  rw [pass] at hc
  split at hc
  · exact h c hc
  split at hc
  · rcases List.mem_append.mp hc with hc | hc
    · exact h c hc
    · exact .inr (.inr (isSome_digit?_of_mem_numberDigits hc))
  · exact h c hc

theorem Progress.foldl_pass_written {first n : Nat} {p : Progress}
    (h : ∀ c ∈ p.out, Written cs c) (ds : List Char) :
    ∀ c ∈ (ds.foldl (pass first n) p).out, Written cs c := by
  induction ds generalizing p with
  | nil => exact h
  | cons d ds ih => exact ih (pass_written h d)

theorem numbers_written {first n : Nat} {p : Progress} (h : ∀ c ∈ p.out, Written cs c)
    (ds : List Char) (codes : List Nat) :
    ∀ c ∈ numbers ds first p n codes, Written cs c := by
  induction codes generalizing p n with
  | nil => exact h
  | cons m codes ih =>
    have hdelta : ∀ c ∈ { p with delta := p.delta + (m - n) * (p.done + 1) }.out, Written cs c := h
    exact ih (Progress.foldl_pass_written hdelta ds)

theorem encode_written (cs : List Char) : ∀ c ∈ encode cs, Written cs c := by
  apply numbers_written
  intro c hc
  dsimp only at hc
  split at hc
  · cases hc
  · rcases List.mem_append.mp hc with hc | hc
    · exact .inl (List.mem_filter.mp hc).1
    · exact .inr (.inl (List.mem_singleton.mp hc))

end Stagehand.Punycode
