import Stagehand.Text.Quoted
import Stagehand.Text.Radix

/-!
# Quoted text tells texts apart
What stands between the quotes can be cut into the ways in which characters are written in only one
way, so that different texts are never quoted alike.
-/

namespace Stagehand

/-! ### Code points in hexadecimal -/

theorem mem_hexDigits {n : Nat} {c : Char} (h : c ∈ hexDigits n) :
    ∃ d : Fin 16, c = Nat.digitChar d := by
  induction n using Nat.strongRecOn with
  | _ n ih =>
    rw [hexDigits] at h
    by_cases hn : n < 16
    · rw [Nat.toDigits_of_lt_base hn, List.mem_singleton] at h
      exact ⟨⟨n, hn⟩, h⟩
    · rw [Nat.toDigits_of_base_le (by decide) (Nat.le_of_not_lt hn)] at h
      rcases List.mem_append.mp h with h | h
      · exact ih (n / 16) (Nat.div_lt_self (by omega) (by decide)) h
      · exact ⟨⟨n % 16, Nat.mod_lt n (by decide)⟩, List.mem_singleton.mp h⟩

theorem digitIn?_digitChar (d : Fin 16) : digitIn? 16 (Nat.digitChar d) = some d.val := by
  decide +revert

/-- The hexadecimal digits of a number spell it. -/
theorem ofRadix?_hexDigits (n : Nat) : ofRadix? 16 (hexDigits n) = some n := by
  rw [hexDigits, ofRadix?, if_neg Nat.toDigits_ne_nil]
  induction n using Nat.strongRecOn with
  | _ n ih =>
    by_cases hn : n < 16
    · rw [Nat.toDigits_of_lt_base hn, List.foldlM_cons, digitIn?_digitChar ⟨n, hn⟩]
      simp
    · have hlt : n / 16 < n := Nat.div_lt_self (by omega) (by decide)
      have hdigit := digitIn?_digitChar ⟨n % 16, Nat.mod_lt n (by decide)⟩
      rw [Nat.toDigits_of_base_le (by decide) (Nat.le_of_not_lt hn), List.foldlM_append, ih _ hlt]
      simp [hdigit, Nat.div_add_mod]

theorem hexDigits_injective : Function.Injective hexDigits := by
  intro m n h
  have hm := ofRadix?_hexDigits m
  rw [h, ofRadix?_hexDigits n] at hm
  exact (Option.some.inj hm).symm

/-- The digits of a code point end where the brace after them stands. -/
theorem takeWhile_hexDigits (n : Nat) (r : List Char) :
    (hexDigits n ++ '}' :: r).takeWhile (· ≠ '}') = hexDigits n := by
  have hne : ∀ d : Fin 16, Nat.digitChar d ≠ '}' := by decide
  rw [List.takeWhile_append_of_pos, List.takeWhile_cons_of_neg (by decide), List.append_nil]
  intro c hc
  obtain ⟨d, rfl⟩ := mem_hexDigits hc
  exact decide_eq_true (hne d)

/-! ### Characters -/

/-- The letters of the short escapes, and what they stand for. -/
def shortEscapes : List (Char × Char) :=
  [('0', '\u0000'), ('t', '\t'), ('r', '\r'), ('n', '\n'), ('\\', '\\'), ('"', '"')]

/-- How a character may be written between quotes. -/
inductive QuotedAs (c : Char) : List Char → Prop
  | plain (h : c ≠ '\\') : QuotedAs c [c]
  | short {letter : Char} (h : (letter, c) ∈ shortEscapes) : QuotedAs c ['\\', letter]
  | code : QuotedAs c ('\\' :: 'u' :: '{' :: (hexDigits c.toNat ++ ['}']))

theorem quotedAs_quotedChar (c : Char) : QuotedAs c (quotedChar c) := by
  rw [quotedChar]
  iterate 6
    split
    · rename_i hc
      subst hc
      exact .short (by decide)
  rename_i hbackslash _
  split
  · exact .plain hbackslash
  · split
    · exact .code
    · exact .plain hbackslash

/-- Where a character ends can be told from how it is written. -/
theorem QuotedAs.append_inj {c d : Char} {cs ds r t : List Char} (hc : QuotedAs c cs)
    (hd : QuotedAs d ds) (h : cs ++ r = ds ++ t) : c = d ∧ r = t := by
  have hletter : ∀ e ∈ shortEscapes, e.1 ≠ 'u' := by decide
  have hescape : ∀ e ∈ shortEscapes, ∀ e' ∈ shortEscapes, e.1 = e'.1 → e.2 = e'.2 := by decide
  cases hc with
  | plain hc =>
    cases hd with
    | plain => simpa using h
    | short => exact absurd (List.cons.inj h).1 hc
    | code => exact absurd (List.cons.inj h).1 hc
  | short hc =>
    cases hd with
    | plain hd => exact absurd (List.cons.inj h).1.symm hd
    | short hd =>
      simp only [List.cons_append, List.nil_append, List.cons.injEq, true_and] at h
      exact ⟨hescape _ hc _ hd h.1, h.2⟩
    | code =>
      simp only [List.cons_append, List.nil_append, List.cons.injEq, true_and] at h
      exact absurd h.1 (hletter _ hc)
  | code =>
    cases hd with
    | plain hd => exact absurd (List.cons.inj h).1.symm hd
    | short hd =>
      simp only [List.cons_append, List.nil_append, List.cons.injEq, true_and] at h
      exact absurd h.1.symm (hletter _ hd)
    | code =>
      simp only [List.cons_append, List.append_assoc, List.cons.injEq, true_and,
        List.nil_append] at h
      have hdigits : hexDigits c.toNat = hexDigits d.toNat := by
        have htake := congrArg (List.takeWhile (· ≠ '}')) h
        rwa [takeWhile_hexDigits, takeWhile_hexDigits] at htake
      rw [hdigits] at h
      have hcode : c.toNat = d.toNat := hexDigits_injective hdigits
      exact ⟨Char.toNat_inj.mp hcode, (List.cons.inj (List.append_cancel_left h)).2⟩

theorem quotedChar_append_inj {c d : Char} {r t : List Char}
    (h : quotedChar c ++ r = quotedChar d ++ t) : c = d ∧ r = t :=
  (quotedAs_quotedChar c).append_inj (quotedAs_quotedChar d) h

theorem quotedChar_ne_nil (c : Char) : quotedChar c ≠ [] := by
  have h := quotedAs_quotedChar c
  intro hnil
  rw [hnil] at h
  cases h

/-! ### Texts -/

theorem flatMap_quotedChar_injective :
    Function.Injective fun cs : List Char => cs.flatMap quotedChar := by
  intro cs ds h
  dsimp only at h
  induction cs generalizing ds with
  | nil =>
    cases ds with
    | nil => rfl
    | cons d ds =>
      rw [List.flatMap_nil, List.flatMap_cons, eq_comm, List.append_eq_nil_iff] at h
      exact absurd h.1 (quotedChar_ne_nil d)
  | cons c cs ih =>
    cases ds with
    | nil =>
      rw [List.flatMap_nil, List.flatMap_cons, List.append_eq_nil_iff] at h
      exact absurd h.1 (quotedChar_ne_nil c)
    | cons d ds =>
      rw [List.flatMap_cons, List.flatMap_cons] at h
      obtain ⟨rfl, hrest⟩ := quotedChar_append_inj h
      rw [ih hrest]

theorem quoted_injective : Function.Injective quoted := by
  intro s t h
  have hchars := List.cons.inj (String.ofList_injective h)
  have hlist := flatMap_quotedChar_injective (List.append_cancel_right hchars.2)
  exact String.toList_inj.mp hlist

theorem quotedOption_injective : Function.Injective quotedOption := by
  intro o o' h
  cases o with
  | none =>
    cases o' with
    | none => rfl
    | some t =>
      have hlist := congrArg String.toList h
      simp [quotedOption] at hlist
  | some s =>
    cases o' with
    | none =>
      have hlist := congrArg String.toList h
      simp [quotedOption] at hlist
    | some t =>
      have hquoted : quoted s = quoted t := by
        have hlist := congrArg String.toList h
        simpa [quotedOption, String.toList_append, String.toList_inj] using hlist
      rw [quoted_injective hquoted]

end Stagehand
