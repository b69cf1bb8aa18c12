import Stagehand.Text.Utf8

/-!
# Bytes are read as they are written
The bytes of a text are read as the symbols of that text, with no stray bytes among them.
-/

namespace Stagehand.Utf8

theorem ofChars_cons (c : Char) (cs : List Char) : ofChars (c :: cs) = .char c :: ofChars cs :=
  rfl

theorem ofChars_append (as bs : List Char) : ofChars (as ++ bs) = ofChars as ++ ofChars bs :=
  List.map_append

theorem bytes_cons_ne_nil (c : Char) (cs : List Char) : bytes (c :: cs) ≠ [] := by
  intro h
  have hc := (List.append_eq_nil_iff.mp h).1
  have hlength := String.length_utf8EncodeChar c
  rw [hc] at hlength
  exact absurd hlength (Nat.ne_of_lt c.utf8Size_pos)

/-! ### Single characters -/

theorem continuation_cons (n : Nat) {lo hi b : UInt8} (bs : List UInt8) (hlo : lo ≤ b)
    (hhi : b ≤ hi) :
    continuation (n + 1) lo hi (b :: bs) =
      (b :: (continuation n 0x80 0xbf bs).1, (continuation n 0x80 0xbf bs).2) := by
  rw [continuation, if_pos ⟨hlo, hhi⟩]

/-- A lead byte and all the bytes that it announces make one character. -/
theorem symbols_of_continuation {b lo hi : UInt8} {n : Nat} {bs more rest : List UInt8}
    (hb : ¬ b < 0x80) (ha : announced b = (n, lo, hi)) (hn : n ≠ 0)
    (hc : continuation n lo hi bs = (more, rest)) (hm : more.length = n) :
    symbols (b :: bs) = .char (assembled b more) :: symbols rest := by
  rw [symbols, if_neg hb, ha]
  simp only [hc, hn, hm, ne_eq, not_false_eq_true, and_self, if_true]

/-! ### Bytes of numbers -/

theorem toNat_ofNat {n : Nat} (h : n < 256) : (UInt8.ofNat n).toNat = n :=
  (UInt8.toNat_ofNat).trans (Nat.mod_eq_of_lt h)

theorem le_ofNat {n : Nat} {k : UInt8} (hn : n < 256) (h : k.toNat ≤ n) : k ≤ UInt8.ofNat n := by
  rw [UInt8.le_iff_toNat_le, toNat_ofNat hn]
  exact h

theorem ofNat_le {n : Nat} {k : UInt8} (hn : n < 256) (h : n ≤ k.toNat) : UInt8.ofNat n ≤ k := by
  rw [UInt8.le_iff_toNat_le, toNat_ofNat hn]
  exact h

theorem announced_two {n : Nat} (hlo : 0xc2 ≤ n) (hhi : n < 0xe0) :
    announced (UInt8.ofNat n) = (1, 0x80, 0xbf) := by
  have h : ∀ m : Fin 256, 0xc2 ≤ m.val → m.val < 0xe0 →
      announced (UInt8.ofNat m) = (1, 0x80, 0xbf)  := by
    decide +kernel
  exact h ⟨n, by omega⟩ hlo hhi

theorem announced_three {n : Nat} (hlo : 0xe0 ≤ n) (hhi : n < 0xf0) :
    announced (UInt8.ofNat n) =
      (2, if n = 0xe0 then 0xa0 else 0x80, if n = 0xed then 0x9f else 0xbf) := by
  have h : ∀ m : Fin 256, 0xe0 ≤ m.val → m.val < 0xf0 → announced (UInt8.ofNat m) =
      (2, if m.val = 0xe0 then 0xa0 else 0x80, if m.val = 0xed then 0x9f else 0xbf)  := by
    decide +kernel
  exact h ⟨n, by omega⟩ hlo hhi

theorem announced_four {n : Nat} (hlo : 0xf0 ≤ n) (hhi : n < 0xf5) :
    announced (UInt8.ofNat n) =
      (3, if n = 0xf0 then 0x90 else 0x80, if n = 0xf4 then 0x8f else 0xbf) := by
  have h : ∀ m : Fin 256, 0xf0 ≤ m.val → m.val < 0xf5 → announced (UInt8.ofNat m) =
      (3, if m.val = 0xf0 then 0x90 else 0x80, if m.val = 0xf4 then 0x8f else 0xbf)  := by
    decide +kernel
  exact h ⟨n, by omega⟩ hlo hhi

theorem not_ascii {n : Nat} (hn : n < 256) (h : 0x80 ≤ n) : ¬ UInt8.ofNat n < 0x80 := by
  rw [UInt8.lt_iff_toNat_lt, toNat_ofNat hn]
  exact Nat.not_lt.mpr h

/-! ### Texts -/

/-- A byte that continues a character stands in the usual range. -/
theorem continuation_ofNat (n k : Nat) (bs : List UInt8) :
    continuation (n + 1) 0x80 0xbf (UInt8.ofNat (k % 64 + 0x80) :: bs) =
      (UInt8.ofNat (k % 64 + 0x80) :: (continuation n 0x80 0xbf bs).1,
        (continuation n 0x80 0xbf bs).2) := by
  have hk : k % 64 < 64 := Nat.mod_lt k (by decide)
  exact continuation_cons n bs (le_ofNat (by omega) (Nat.le_add_left _ _))
    (ofNat_le (by omega) (Nat.le_of_lt_succ (Nat.add_lt_add_right hk 0x80)))

theorem symbols_one {v : Nat} (hv : v ≤ 0x7f) (bs : List UInt8) :
    symbols (UInt8.ofNat v :: bs) = .char (Char.ofNat v) :: symbols bs := by
  have hlt : UInt8.ofNat v < 0x80 := by
    rw [UInt8.lt_iff_toNat_lt, toNat_ofNat (by omega)]
    exact Nat.lt_succ_of_le hv
  rw [symbols, if_pos hlt, toNat_ofNat (by omega)]

theorem symbols_two {v : Nat} (hlo : 0x7f < v) (hhi : v ≤ 0x7ff) (bs : List UInt8) :
    symbols (UInt8.ofNat (v / 64 % 32 + 0xc0) :: UInt8.ofNat (v % 64 + 0x80) :: bs) =
      .char (Char.ofNat v) :: symbols bs := by
  have ha := announced_two (n := v / 64 % 32 + 0xc0) (by omega) (by omega)
  have hcont : continuation 1 0x80 0xbf (UInt8.ofNat (v % 64 + 0x80) :: bs) =
      ([UInt8.ofNat (v % 64 + 0x80)], bs) := by
    rw [continuation_ofNat 0]
    rfl
  have hchar : assembled (UInt8.ofNat (v / 64 % 32 + 0xc0)) [UInt8.ofNat (v % 64 + 0x80)] =
      Char.ofNat v := by
    simp only [assembled, List.length_cons, List.length_nil, List.foldl_cons, List.foldl_nil,
      Nat.pow_eq]
    rw [toNat_ofNat (by omega), toNat_ofNat (by omega)]
    congr 1
    omega
  rw [symbols_of_continuation (not_ascii (by omega) (by omega)) ha (by decide) hcont rfl, hchar]

/-- Three bytes, which never stand for one half of a surrogate pair. -/
theorem symbols_three {v : Nat} (hlo : 0x7ff < v) (hhi : v ≤ 0xffff)
    (hv : v < 0xd800 ∨ 0xdfff < v) (bs : List UInt8) :
    symbols (UInt8.ofNat (v / 4096 % 16 + 0xe0) :: UInt8.ofNat (v / 64 % 64 + 0x80) ::
      UInt8.ofNat (v % 64 + 0x80) :: bs) = .char (Char.ofNat v) :: symbols bs := by
  have ha := announced_three (n := v / 4096 % 16 + 0xe0) (by omega) (by omega)
  have hcont : continuation 2 (if v / 4096 % 16 + 0xe0 = 0xe0 then 0xa0 else 0x80)
      (if v / 4096 % 16 + 0xe0 = 0xed then 0x9f else 0xbf)
      (UInt8.ofNat (v / 64 % 64 + 0x80) :: UInt8.ofNat (v % 64 + 0x80) :: bs) =
        ([UInt8.ofNat (v / 64 % 64 + 0x80), UInt8.ofNat (v % 64 + 0x80)], bs) := by
    rw [continuation_cons, continuation_ofNat 0]
    · rfl
    · split
      · exact le_ofNat (by omega) (show 0xa0 ≤ _ by omega)
      · exact le_ofNat (by omega) (show 0x80 ≤ _ by omega)
    · split
      · exact ofNat_le (by omega) (show _ ≤ 0x9f by omega)
      · exact ofNat_le (by omega) (show _ ≤ 0xbf by omega)
  have hchar : assembled (UInt8.ofNat (v / 4096 % 16 + 0xe0))
      [UInt8.ofNat (v / 64 % 64 + 0x80), UInt8.ofNat (v % 64 + 0x80)] = Char.ofNat v := by
    simp only [assembled, List.length_cons, List.length_nil, List.foldl_cons, List.foldl_nil,
      Nat.pow_eq]
    rw [toNat_ofNat (by omega), toNat_ofNat (by omega), toNat_ofNat (by omega)]
    congr 1
    omega
  rw [symbols_of_continuation (not_ascii (by omega) (by omega)) ha (by decide) hcont rfl, hchar]

theorem symbols_four {v : Nat} (hlo : 0xffff < v) (hhi : v < 0x110000) (bs : List UInt8) :
    symbols (UInt8.ofNat (v / 262144 % 8 + 0xf0) :: UInt8.ofNat (v / 4096 % 64 + 0x80) ::
      UInt8.ofNat (v / 64 % 64 + 0x80) :: UInt8.ofNat (v % 64 + 0x80) :: bs) =
        .char (Char.ofNat v) :: symbols bs := by
  have ha := announced_four (n := v / 262144 % 8 + 0xf0) (by omega) (by omega)
  have hcont : continuation 3 (if v / 262144 % 8 + 0xf0 = 0xf0 then 0x90 else 0x80)
      (if v / 262144 % 8 + 0xf0 = 0xf4 then 0x8f else 0xbf)
      (UInt8.ofNat (v / 4096 % 64 + 0x80) :: UInt8.ofNat (v / 64 % 64 + 0x80) ::
        UInt8.ofNat (v % 64 + 0x80) :: bs) =
        ([UInt8.ofNat (v / 4096 % 64 + 0x80), UInt8.ofNat (v / 64 % 64 + 0x80),
          UInt8.ofNat (v % 64 + 0x80)], bs) := by
    rw [continuation_cons, continuation_ofNat 1, continuation_ofNat 0]
    · rfl
    · split
      · exact le_ofNat (by omega) (show 0x90 ≤ _ by omega)
      · exact le_ofNat (by omega) (show 0x80 ≤ _ by omega)
    · split
      · exact ofNat_le (by omega) (show _ ≤ 0x8f by omega)
      · exact ofNat_le (by omega) (show _ ≤ 0xbf by omega)
  have hchar : assembled (UInt8.ofNat (v / 262144 % 8 + 0xf0))
      [UInt8.ofNat (v / 4096 % 64 + 0x80), UInt8.ofNat (v / 64 % 64 + 0x80),
        UInt8.ofNat (v % 64 + 0x80)] = Char.ofNat v := by
    simp only [assembled, List.length_cons, List.length_nil, List.foldl_cons, List.foldl_nil,
      Nat.pow_eq]
    rw [toNat_ofNat (by omega), toNat_ofNat (by omega), toNat_ofNat (by omega),
      toNat_ofNat (by omega)]
    congr 1
    omega
  rw [symbols_of_continuation (not_ascii (by omega) (by omega)) ha (by decide) hcont rfl, hchar]

/-- The bytes of a character are read as that character. -/
theorem symbols_encode (c : Char) (bs : List UInt8) :
    symbols (String.utf8EncodeChar c ++ bs) = .char c :: symbols bs := by
  have hvalid : c.toNat < 0xd800 ∨ 0xdfff < c.toNat ∧ c.toNat < 0x110000 := c.valid
  have hval : c.val.toNat = c.toNat := rfl
  have hchar : .char (Char.ofNat c.toNat) :: symbols bs = .char c :: symbols bs := by
    rw [Char.ofNat_toNat]
  rw [← hchar]
  simp only [String.utf8EncodeChar, hval]
  generalize c.toNat = v at hvalid
  split
  · exact symbols_one ‹_› bs
  split
  · exact symbols_two (by omega) ‹_› bs
  split
  · exact symbols_three (by omega) ‹_› (by omega) bs
  · exact symbols_four (by omega) (by omega) bs

/-- The bytes of a text are read as that text. -/
@[simp] theorem symbols_bytes (cs : List Char) : symbols (bytes cs) = ofChars cs := by
  induction cs with
  | nil =>
    rw [bytes, List.flatMap_nil, symbols]
    rfl
  | cons c cs ih =>
    rw [bytes, List.flatMap_cons, symbols_encode, ← bytes, ih]
    rfl

end Stagehand.Utf8
