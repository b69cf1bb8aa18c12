import Stagehand.Proofs.Json.Grammar

/-!
# Words, strings and numbers against the grammar
The readers of the smallest parts succeed on just the texts that the grammar has, with the result
that it gives them, and stop where it ends.
-/

namespace Stagehand.Json

/-! ### Blanks -/

theorem blanks_skipBlanks (s : List Sym) : Blanks s (skipBlanks s) := by
  fun_induction skipBlanks s with
  | case1 r ih => exact .more (.inl rfl) ih
  | case2 r ih => exact .more (.inr (.inl rfl)) ih
  | case3 r ih => exact .more (.inr (.inr (.inl rfl))) ih
  | case4 r ih => exact .more (.inr (.inr (.inr rfl))) ih
  | case5 r => exact .none _

theorem skipBlanks_of_isBlank {c : Sym} (hc : IsBlank c) (r : List Sym) :
    skipBlanks (c :: r) = skipBlanks r := by
  rcases hc with rfl | rfl | rfl | rfl <;> rfl

theorem skipBlanks_of_not_isBlank {c : Sym} (hc : ¬ IsBlank c) (r : List Sym) :
    skipBlanks (c :: r) = c :: r := by
  rw [skipBlanks]
  all_goals
    intro t ht
    rw [(List.cons.inj ht).1] at hc
  · exact hc (.inl rfl)
  · exact hc (.inr (.inl rfl))
  · exact hc (.inr (.inr (.inl rfl)))
  · exact hc (.inr (.inr (.inr rfl)))

theorem Blanks.skipBlanks_eq {s r : List Sym} (h : Blanks s r) : skipBlanks s = skipBlanks r := by
  induction h with
  | none s => rfl
  | more hc _ ih => rw [skipBlanks_of_isBlank hc, ih]

theorem Blanks.length_le {s r : List Sym} (h : Blanks s r) : r.length ≤ s.length := by
  induction h with
  | none s => exact Nat.le_refl _
  | more hc _ ih => exact Nat.le_succ_of_le ih

@[simp] theorem skipBlanks_skipBlanks (s : List Sym) :
    skipBlanks (skipBlanks s) = skipBlanks s :=
  (blanks_skipBlanks s).skipBlanks_eq.symm

theorem skipBlanks_eq_cons_iff {c : Sym} (hc : ¬ IsBlank c) {s r : List Sym} :
    skipBlanks s = c :: r ↔ Blanks s (c :: r) := by
  constructor
  · intro h
    rw [← h]
    exact blanks_skipBlanks s
  · intro h
    rw [h.skipBlanks_eq, skipBlanks_of_not_isBlank hc]

theorem skipBlanks_eq_nil_iff {s : List Sym} : skipBlanks s = [] ↔ Blanks s [] := by
  constructor
  · intro h
    rw [← h]
    exact blanks_skipBlanks s
  · intro h
    rw [h.skipBlanks_eq]
    rfl

/-- A character that is no blank is met after blanks exactly where it is marked. -/
theorem skipBlanks_eq_char_iff {c : Char} (hc : ¬ IsBlank (.char c)) {s r : List Sym} :
    skipBlanks s = .char c :: r ↔ Mark c s r :=
  skipBlanks_eq_cons_iff hc

theorem Mark.length_lt {c : Char} {s r : List Sym} (h : Mark c s r) : r.length < s.length :=
  Blanks.length_le h

/-! ### Words -/

theorem readWord_eq_ok_iff {cs : List Char} {s r : List Sym} :
    readWord cs s = .ok ((), r) ↔ s = Utf8.ofChars cs ++ r := by
  induction cs generalizing s with
  | nil =>
    rw [readWord, Except.ok.injEq, Prod.mk.injEq]
    exact ⟨fun h => h.2, fun h => ⟨rfl, h⟩⟩
  | cons c cs ih =>
    cases s with
    | nil =>
      constructor
      · intro h
        cases h
      · intro h
        cases h
    | cons d s =>
      rw [readWord]
      split
      · rename_i hd
        rw [ih, hd]
        exact ⟨fun h => h ▸ rfl, fun h => (List.cons.inj h).2⟩
      · rename_i hd
        constructor
        · intro h
          cases h
        · intro h
          exact absurd (List.cons.inj h).1 hd

/-! ### Code units and escapes -/

theorem hexUnit_eq_ok_iff {s r : List Sym} {n : Nat} :
    hexUnit s = .ok (n, r) ↔ HexUnit s n r := by
  constructor
  · intro h
    unfold hexUnit at h
    split at h
    · split at h
      · rename_i ha hb hc hd
        cases h
        exact .digits ha hb hc hd
      · cases h
    · split at h <;> cases h
  · rintro ⟨ha, hb, hc, hd⟩
    simp only [hexUnit, ha, hb, hc, hd]

theorem HexUnit.length_lt {s r : List Sym} {n : Nat} (h : HexUnit s n r) : r.length < s.length :=
  hexUnit_shorter (hexUnit_eq_ok_iff.mpr h)

theorem isHighSurrogate_of_isLowSurrogate {n : Nat} (h : isLowSurrogate n = true) :
    isHighSurrogate n = false := by
  simp only [isLowSurrogate, isHighSurrogate, decide_eq_true_eq, decide_eq_false_iff_not] at *
  omega

theorem lowHalf_eq_ok_iff {n : Nat} {s r : List Sym} {c : Char} :
    lowHalf n s = .ok (c, r) ↔ ∃ t m, s = .char '\\' :: .char 'u' :: t ∧ HexUnit t m r ∧
      isLowSurrogate m = true ∧
      c = Char.ofNat ((n - 0xd800) * 1024 + (m - 0xdc00) + 0x10000) := by
  constructor
  · intro h
    match s with
    | [] => cases h
    | [s] =>
      simp only [lowHalf] at h
      split at h <;> cases h
    | a :: b :: t =>
      simp only [lowHalf] at h
      split at h
      · cases h
      split at h
      · cases h
      split at h
      · cases h
      split at h
      · rename_i ha hb _ m u hx hl
        simp only [Except.ok.injEq, Prod.mk.injEq] at h
        obtain ⟨rfl, rfl⟩ := h
        refine ⟨t, m, ?_, hexUnit_eq_ok_iff.mp hx, hl, rfl⟩
        rw [Decidable.not_not.mp ha, Decidable.not_not.mp hb]
      · cases h
  · rintro ⟨t, m, rfl, hm, hl, hc⟩
    rw [hc]
    rw [lowHalf, if_neg (fun h => h rfl), if_neg (fun h => h rfl), hexUnit_eq_ok_iff.mpr hm]
    exact if_pos hl

theorem shortEscape?_u : shortEscape? 'u' = none := by decide

theorem readEscape_eq_ok_iff {s r : List Sym} {c : Char} :
    readEscape s = .ok (c, r) ↔ Escape s c r := by
  constructor
  · intro h
    match s with
    | [] => cases h
    | .stray _ :: _ => cases h
    | .char d :: t =>
      simp only [readEscape] at h
      split at h
      · rename_i hd
        subst hd
        simp only [hexEscape] at h
        split at h
        · cases h
        rename_i n u hx
        have hn := hexUnit_eq_ok_iff.mp hx
        split at h
        · cases h
        rename_i hl
        split at h
        · rename_i hh
          obtain ⟨t, m, rfl, hm, hlow, hc⟩ := lowHalf_eq_ok_iff.mp h
          rw [hc]
          exact .pair hn hh hm hlow
        · rename_i hh
          cases h
          exact .unit hn (Bool.eq_false_iff.mpr hl) (Bool.eq_false_iff.mpr hh)
      · split at h
        · rename_i hs
          cases h
          exact .short hs
        · cases h
  · intro h
    cases h with
    | short h =>
      rename_i d
      have hd : d ≠ 'u' := by
        rintro rfl
        rw [shortEscape?_u] at h
        cases h
      simp only [readEscape, hd, if_false, h]
    | unit h hl hh =>
      simp only [readEscape, if_true, hexEscape, hexUnit_eq_ok_iff.mpr h, hl, hh,
        Bool.false_eq_true, if_false]
    | @pair n m _ t _ hn hh hm hl =>
      have hnot := Bool.eq_false_iff.mpr fun h => Bool.false_ne_true
        ((isHighSurrogate_of_isLowSurrogate h).symm.trans hh)
      have hpair := lowHalf_eq_ok_iff (n := n).mpr ⟨t, m, rfl, hm, hl, rfl⟩
      simp only [readEscape, if_true, hexEscape, hexUnit_eq_ok_iff.mpr hn, hnot, hh,
        Bool.false_eq_true, if_false]
      exact hpair

theorem Escape.length_lt {s r : List Sym} {c : Char} (h : Escape s c r) : r.length < s.length :=
  readEscape_shorter (readEscape_eq_ok_iff.mpr h)

/-! ### Strings -/

theorem letters_of_readStringFrom {before : List Char} {sound : Bool} {s r : List Sym}
    {text : String} (h : readStringFrom before sound s = .ok (text, r)) :
    sound = true ∧ ∃ cs, Letters s cs r ∧ text = String.ofList (before.reverse ++ cs) := by
  fun_induction readStringFrom before sound s with
  | case1 => cases h
  | case2 =>
    cases h
    exact ⟨rfl, [], .close _, by rw [List.append_nil]⟩
  | case3 => cases h
  | case4 => cases h
  | case5 before sound t d t' he _ _ ih =>
    obtain ⟨hs, cs, hl, rfl⟩ := ih h
    refine ⟨hs, d :: cs, .escape (readEscape_eq_ok_iff.mp he) hl, ?_⟩
    rw [List.reverse_cons, List.append_assoc, List.singleton_append]
  | case6 => cases h
  | case7 before sound c t hq hb hc ih =>
    obtain ⟨hs, cs, hl, rfl⟩ := ih h
    refine ⟨hs, c :: cs, .plain ⟨hq, hb, hc⟩ hl, ?_⟩
    rw [List.reverse_cons, List.append_assoc, List.singleton_append]
  | case8 before sound bytes t ih =>
    exact absurd (ih h).1 Bool.false_ne_true

theorem Letters.readStringFrom_eq {s r : List Sym} {cs : List Char} (h : Letters s cs r)
    (before : List Char) :
    readStringFrom before true s = .ok (String.ofList (before.reverse ++ cs), r) := by
  induction h generalizing before with
  | close r =>
    rw [readStringFrom, if_pos rfl, if_pos rfl, List.append_nil]
  | @plain c cs s r hc _ ih =>
    rw [readStringFrom, if_neg hc.1, if_neg hc.2.1, if_neg hc.2.2, ih, List.reverse_cons,
      List.append_assoc, List.singleton_append]
  | @escape c cs s t r hc _ ih =>
    rw [readStringFrom, if_neg (by decide), if_pos rfl]
    split
    · rename_i f he
      rw [readEscape_eq_ok_iff.mpr hc] at he
      cases he
    · rename_i he
      rw [readEscape_eq_ok_iff.mpr hc] at he
      cases he
      rw [ih, List.reverse_cons, List.append_assoc, List.singleton_append]

/-- A string is read exactly where its characters are spelled. -/
theorem readString_eq_ok_iff {s r : List Sym} {text : String} :
    readString s = .ok (text, r) ↔ Letters s text.toList r := by
  constructor
  · intro h
    obtain ⟨-, cs, hl, rfl⟩ := letters_of_readStringFrom h
    rwa [List.reverse_nil, List.nil_append, String.toList_ofList]
  · intro h
    rw [readString, h.readStringFrom_eq, List.reverse_nil, List.nil_append, String.ofList_toList]

theorem Letters.length_lt {s r : List Sym} {cs : List Char} (h : Letters s cs r) :
    r.length < s.length := by
  induction h with
  | close r => exact Nat.lt_succ_self _
  | plain _ _ ih => exact Nat.lt_succ_of_lt ih
  | escape hc _ ih => exact Nat.lt_succ_of_lt (Nat.lt_trans ih hc.length_lt)

/-- A string has no more characters than symbols spell it. -/
theorem Letters.length_chars_lt {s r : List Sym} {cs : List Char} (h : Letters s cs r) :
    cs.length < s.length := by
  induction h with
  | close r => exact Nat.succ_pos _
  | plain _ _ ih => exact Nat.succ_lt_succ ih
  | escape hc _ ih => exact Nat.succ_lt_succ (Nat.lt_trans ih hc.length_lt)

/-- What stands in a string is one thing, and so is what is left after it. -/
theorem Letters.unique {s r r' : List Sym} {text text' : String} (h : Letters s text.toList r)
    (h' : Letters s text'.toList r') : text = text' ∧ r = r' := by
  rw [← readString_eq_ok_iff] at h h'
  rw [h, Except.ok.injEq, Prod.mk.injEq] at h'
  exact h'

/-! ### Strings that nobody wants -/

theorem skippedLetters_of_skipString {s r : List Sym} (h : skipString s = .ok ((), r)) :
    SkippedLetters s r := by
  fun_induction skipString s with
  | case1 => cases h
  | case2 =>
    cases h
    exact .close _
  | case3 => cases h
  | case4 t t' he _ _ ih =>
    match t with
    | [] => cases he
    | .stray _ :: _ => cases he
    | .char d :: u =>
      simp only [skipEscape] at he
      split at he
      · rename_i hd
        subst hd
        split at he
        · cases he
        · rename_i hx
          cases he
          exact .unit (hexUnit_eq_ok_iff.mp hx) (ih h)
      · split at he
        · rename_i hs
          cases he
          obtain ⟨e, hs⟩ := Option.isSome_iff_exists.mp hs
          exact .short hs (ih h)
        · cases he
  | case5 => cases h
  | case6 c t hq hb hc ih => exact .plain ⟨hq, hb, hc⟩ (ih h)
  | case7 bytes t ih => exact .stray (ih h)

/-- A backslash is passed over together with what escapes by it. -/
theorem skipString_backslash {s t : List Sym} (h : skipEscape s = .ok ((), t)) :
    skipString (.char '\\' :: s) = skipString t := by
  rw [skipString, if_neg (by decide), if_pos rfl]
  split
  · rename_i he
    rw [h] at he
    cases he
  · rename_i he
    rw [h] at he
    cases he
    rfl

theorem SkippedLetters.skipString_eq {s r : List Sym} (h : SkippedLetters s r) :
    skipString s = .ok ((), r) := by
  induction h with
  | close r => rw [skipString, if_pos rfl]
  | @plain c s r hc _ ih =>
    rw [skipString, if_neg hc.1, if_neg hc.2.1, if_neg hc.2.2, ih]
  | stray _ ih => rw [skipString, ih]
  | @short c d s r hc _ ih =>
    have hu : c ≠ 'u' := by
      rintro rfl
      rw [shortEscape?_u] at hc
      cases hc
    rw [skipString_backslash (t := s), ih]
    rw [skipEscape, if_neg hu, hc, Option.isSome_some, if_pos rfl]
  | @unit n s t r hn _ ih =>
    rw [skipString_backslash (t := t), ih]
    rw [skipEscape, if_pos rfl, hexUnit_eq_ok_iff.mpr hn]

theorem skipString_eq_ok_iff {s r : List Sym} :
    skipString s = .ok ((), r) ↔ SkippedLetters s r :=
  ⟨skippedLetters_of_skipString, SkippedLetters.skipString_eq⟩

theorem SkippedLetters.length_lt {s r : List Sym} (h : SkippedLetters s r) :
    r.length < s.length := by
  induction h with
  | close r => exact Nat.lt_succ_self _
  | plain _ _ ih => exact Nat.lt_succ_of_lt ih
  | stray _ ih => exact Nat.lt_succ_of_lt ih
  | short _ _ ih => exact Nat.lt_succ_of_lt (Nat.lt_succ_of_lt ih)
  | unit hn _ ih =>
    exact Nat.lt_succ_of_lt (Nat.lt_succ_of_lt (Nat.lt_trans ih hn.length_lt))

end Stagehand.Json
