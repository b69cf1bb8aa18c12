import Stagehand.Proofs.Text.Utf8
import Stagehand.Url.Percent

/-!
# What percent encoding writes
Encoding leaves a character as it is or writes percent signs and digits in its place.
-/

namespace Stagehand.Percent

variable {encoded : Char → Bool}

theorem isHexDigit_digit {n : Nat} (h : n < 16) : isHexDigit (digit n) = true := by
  have hall : ∀ m : Fin 16, isHexDigit (digit m) = true := by decide
  exact hall ⟨n, h⟩

theorem mem_byte {b : UInt8} {c : Char} (h : c ∈ byte b) : c = '%' ∨ isHexDigit c = true := by
  have hb : b.toNat < 256 := b.toNat_lt
  simp only [byte, List.mem_cons, List.not_mem_nil, or_false] at h
  rcases h with rfl | rfl | rfl
  · exact .inl rfl
  · exact .inr (isHexDigit_digit (by omega))
  · exact .inr (isHexDigit_digit (by omega))

/-- What stands in an encoded text stood there before, if it is neither a percent sign nor a
digit. -/
theorem mem_of_mem_encode {c : Char} {cs : List Char} (h : c ∈ encode encoded cs) (hp : c ≠ '%')
    (hd : isHexDigit c = false) : c ∈ cs := by
  obtain ⟨d, hdcs, hc⟩ := List.mem_flatMap.mp h
  rw [char] at hc
  split at hc
  · obtain ⟨b, -, hb⟩ := List.mem_flatMap.mp hc
    rcases mem_byte hb with rfl | htrue
    · exact absurd rfl hp
    · rw [hd] at htrue
      cases htrue
  · rw [List.mem_singleton] at hc
    exact hc ▸ hdcs

/-- Something is written for every character, and it begins with the character itself or with a
percent sign. -/
theorem char_eq_cons (encoded : Char → Bool) (c : Char) :
    ∃ d cs, char encoded c = d :: cs ∧ (d = c ∨ d = '%') := by
  rw [char]
  split
  · obtain ⟨b, bs, hbs⟩ := List.exists_cons_of_ne_nil (Utf8.bytes_cons_ne_nil c [])
    rw [hbs]
    exact ⟨'%', _, rfl, .inr rfl⟩
  · exact ⟨c, [], rfl, .inl rfl⟩

@[simp] theorem encode_eq_nil_iff {cs : List Char} : encode encoded cs = [] ↔ cs = [] := by
  constructor
  · intro h
    cases cs with
    | nil => rfl
    | cons c cs =>
      obtain ⟨d, ds, hc, -⟩ := char_eq_cons encoded c
      rw [encode, List.flatMap_cons, hc] at h
      cases h
  · rintro rfl
    rfl

theorem head?_of_head?_encode {c : Char} {cs : List Char} (hp : c ≠ '%')
    (h : (encode encoded cs).head? = some c) : cs.head? = some c := by
  cases cs with
  | nil => cases h
  | cons d cs =>
    obtain ⟨e, es, hd, he⟩ := char_eq_cons encoded d
    rw [encode, List.flatMap_cons, hd] at h
    cases h
    rcases he with rfl | rfl
    · rfl
    · exact absurd rfl hp

end Stagehand.Percent
