import Stagehand.Proofs.Json.Lexeme

/-!
# Numbers against the grammar
A number is read from just the literals of the grammar, as what the literal comes to. One that is
passed over may come to nothing.
-/

namespace Stagehand.Json

/-! ### Digits -/

theorem stops_cons_iff {p : Char → Prop} {c : Char} {r : List Sym} :
    Stops p (.char c :: r) ↔ ¬ p c := by
  constructor
  · intro h
    exact h c r rfl
  · intro h d t hd
    cases hd
    exact h

theorem digits_spanDigits (s : List Sym) : Digits s (spanDigits s).1 (spanDigits s).2 := by
  fun_induction spanDigits s with
  | case1 c r hc ds r' heq ih =>
    rw [heq] at ih
    obtain ⟨hs, hd, hr⟩ := ih
    refine ⟨congrArg (Sym.char c :: ·) hs, ?_, hr⟩
    intro d hm
    rcases List.mem_cons.mp hm with rfl | hm
    · exact hc
    · exact hd d hm
  | case2 c r hc => exact ⟨rfl, fun _ hd => absurd hd List.not_mem_nil, stops_cons_iff.mpr hc⟩
  | case3 r hr =>
    exact ⟨rfl, fun _ hd => absurd hd List.not_mem_nil, fun c t ht => absurd ht (hr c t)⟩

theorem spanDigits_of_stops {r : List Sym} (h : Stops (isDigit · = true) r) :
    spanDigits r = ([], r) := by
  unfold spanDigits
  split
  · rename_i c t
    rw [if_neg (h c t rfl)]
  · rfl

theorem Digits.spanDigits_eq {s r : List Sym} {ds : List Char} (h : Digits s ds r) :
    spanDigits s = (ds, r) := by
  obtain ⟨rfl, hd, hr⟩ := h
  induction ds with
  | nil => exact spanDigits_of_stops hr
  | cons c ds ih =>
    have hc : isDigit c = true := hd c List.mem_cons_self
    have hrest := ih fun d hm => hd d (List.mem_cons_of_mem c hm)
    rw [Utf8.ofChars, List.map_cons, List.cons_append, spanDigits, if_pos hc]
    rw [Utf8.ofChars] at hrest
    rw [hrest]

theorem spanDigits_eq_iff {s r : List Sym} {ds : List Char} :
    spanDigits s = (ds, r) ↔ Digits s ds r := by
  constructor
  · intro h
    have hd := digits_spanDigits s
    rwa [h] at hd
  · exact Digits.spanDigits_eq

theorem Digits.length_le {s r : List Sym} {ds : List Char} (h : Digits s ds r) :
    r.length ≤ s.length := by
  rw [h.1, List.length_append]
  exact Nat.le_add_left _ _

theorem Digits.length_lt {s r : List Sym} {ds : List Char} (h : Digits s ds r) (hne : ds ≠ []) :
    r.length < s.length := by
  rw [h.1, List.length_append, Utf8.ofChars, List.length_map]
  exact Nat.lt_add_of_pos_left (List.length_pos_iff.mpr hne)

/-- Digits begin with the first of them. -/
theorem Digits.head {s r : List Sym} {ds : List Char} (h : Digits s ds r) (hne : ds ≠ []) :
    ∃ c t, s = .char c :: t ∧ isDigit c = true := by
  obtain ⟨c, cs, rfl⟩ := List.exists_cons_of_ne_nil hne
  exact ⟨c, _, h.1, h.2.1 c List.mem_cons_self⟩

/-- Where a digit stands, digits stand. -/
theorem Digits.ne_nil {c : Char} {t r : List Sym} {ds : List Char}
    (h : Digits (.char c :: t) ds r) (hc : isDigit c = true) : ds ≠ [] := by
  rintro rfl
  obtain ⟨hs, -, hr⟩ := h
  exact hr c t hs.symm hc

/-! ### Exponents -/

theorem le_valueFrom (n : Nat) (ds : List Char) : n ≤ Numeral.valueFrom n ds := by
  induction ds generalizing n with
  | nil => exact Nat.le_refl n
  | cons c ds ih =>
    have h := ih (10 * n + digitValue c)
    rw [Numeral.valueFrom, List.foldl_cons]
    rw [Numeral.valueFrom] at h
    omega

/-- The digits of an exponent are read up to their end, whether or not they spell too much. -/
theorem exponentDigits_eq {s r : List Sym} {ds : List Char} (h : Digits s ds r) {n : Nat}
    (hn : n ≤ maxExponent) :
    (Numeral.valueFrom n ds ≤ maxExponent ∧
      exponentDigits n s = (.ok (Numeral.valueFrom n ds), r)) ∨
    (maxExponent < Numeral.valueFrom n ds ∧
      ∃ left t, exponentDigits n s = (.error left, t) ∧ (spanDigits left).2 = r) := by
  induction ds generalizing s n with
  | nil =>
    obtain ⟨hs, -, hr⟩ := h
    replace hs : s = r := hs
    subst hs
    refine .inl ⟨hn, ?_⟩
    unfold exponentDigits
    split
    · rename_i c t
      rw [if_neg (hr c t rfl)]
      rfl
    · rfl
  | cons c ds ih =>
    obtain ⟨rfl, hd, hr⟩ := h
    have hc : isDigit c = true := hd c List.mem_cons_self
    have hrest : Digits (Utf8.ofChars ds ++ r) ds r :=
      ⟨rfl, fun d hm => hd d (List.mem_cons_of_mem c hm), hr⟩
    have hunfold : exponentDigits n (Utf8.ofChars (c :: ds) ++ r) =
        if maxExponent < 10 * n + digitValue c then
          (.error (Utf8.ofChars ds ++ r), Utf8.ofChars ds ++ r)
        else exponentDigits (10 * n + digitValue c) (Utf8.ofChars ds ++ r) := by
      rw [Utf8.ofChars, List.map_cons, List.cons_append, exponentDigits, if_pos hc]
      rfl
    have hvalue : Numeral.valueFrom n (c :: ds) =
        Numeral.valueFrom (10 * n + digitValue c) ds := rfl
    rw [hunfold, hvalue]
    by_cases hlarge : maxExponent < 10 * n + digitValue c
    · rw [if_pos hlarge]
      refine .inr ⟨Nat.lt_of_lt_of_le hlarge (le_valueFrom _ ds), _, _, rfl, ?_⟩
      rw [hrest.spanDigits_eq]
    · rw [if_neg hlarge]
      exact ih hrest (Nat.le_of_not_lt hlarge)

theorem digitValue_le {c : Char} (h : isDigit c = true) : digitValue c ≤ 9 := by
  simp only [isDigit, decide_eq_true_eq, Char.le_def, UInt32.le_iff_toNat_le] at h
  have h9 : ('9' : Char).val.toNat = 57 := rfl
  have h0 : ('0' : Char).toNat = 48 := rfl
  have hc : c.toNat = c.val.toNat := rfl
  rw [digitValue, h0, hc]
  omega

theorem finishReal_eq_ok_iff {negative : Bool} {m : Nat} {e : Int} {s r : List Sym} {n : Number} :
    finishReal negative m e s = .ok (n, r) ↔
      s = r ∧ (realOf? negative m e).map .real = some n := by
  unfold finishReal
  cases realOf? negative m e with
  | none =>
    constructor
    · intro h
      cases h
    · intro h
      cases h.2
  | some x =>
    rw [Option.map_some, Except.ok.injEq, Prod.mk.injEq, Option.some.injEq]
    exact And.comm

theorem finishExponent_eq {negative down : Bool} {m : Nat} {e : Int} {s r : List Sym}
    {ds : List Char} {n : Number} (hd : Digits s ds r) (hne : ds ≠ []) :
    finishExponent negative down m e s = .ok (n, r) ↔
      Literal.scaled? negative m e (some (down, ds)) = some n := by
  obtain ⟨c, cs, rfl⟩ := List.exists_cons_of_ne_nil hne
  obtain ⟨rfl, hall, hr⟩ := hd
  have hc : isDigit c = true := hall c List.mem_cons_self
  have hrest : Digits (Utf8.ofChars cs ++ r) cs r :=
    ⟨rfl, fun d hm => hall d (List.mem_cons_of_mem c hm), hr⟩
  have hsmall : digitValue c ≤ maxExponent := Nat.le_trans (digitValue_le hc) (by decide)
  have hvalue : Numeral.value (c :: cs) = Numeral.valueFrom (digitValue c) cs := by
    rw [Numeral.value, Numeral.valueFrom, List.foldl_cons, Nat.mul_zero, Nat.zero_add]
    rfl
  rw [Utf8.ofChars, List.map_cons, List.cons_append, finishExponent, if_pos hc, Literal.scaled?,
    hvalue]
  rcases exponentDigits_eq hrest hsmall with ⟨hle, heq⟩ | ⟨hlt, left, t, heq, hleft⟩
  · rw [Utf8.ofChars] at heq
    rw [heq, if_pos hle]
    exact finishReal_eq_ok_iff.trans ⟨fun h => h.2, fun h => ⟨rfl, h⟩⟩
  · rw [Utf8.ofChars] at heq
    rw [heq, if_neg (Nat.not_le_of_lt hlt)]
    dsimp only
    by_cases hbig : m ≠ 0 ∧ !down
    · rw [if_pos hbig, if_pos hbig]
      constructor <;> intro h <;> cases h
    · rw [if_neg hbig, if_neg hbig, hleft, Except.ok.injEq, Prod.mk.injEq, Option.some.injEq]
      exact and_iff_left rfl

/-- An exponent is read up to the end of its digits. -/
theorem digits_of_finishExponent {negative down : Bool} {m : Nat} {e : Int} {s r : List Sym}
    {n : Number} (h : finishExponent negative down m e s = .ok (n, r)) :
    ∃ ds, Digits s ds r ∧ ds ≠ [] := by
  match s with
  | [] => cases h
  | .stray _ :: _ => cases h
  | .char c :: t =>
    by_cases hc : isDigit c = true
    · have hd := digits_spanDigits (.char c :: t)
      have hr := digits_spanDigits t
      have hsmall : digitValue c ≤ maxExponent := Nat.le_trans (digitValue_le hc) (by decide)
      have hrest : (spanDigits (.char c :: t)).2 = (spanDigits t).2 := by
        rw [spanDigits, if_pos hc]
      rw [finishExponent, if_pos hc] at h
      refine ⟨_, ?_, hd.ne_nil hc⟩
      rcases exponentDigits_eq hr hsmall with ⟨-, heq⟩ | ⟨-, left, u, heq, hleft⟩
      · rw [heq] at h
        rw [← (finishReal_eq_ok_iff.mp h).1, ← hrest]
        exact hd
      · rw [heq] at h
        dsimp only at h
        split at h
        · cases h
        · rw [Except.ok.injEq, Prod.mk.injEq, hleft] at h
          rw [← h.2, ← hrest]
          exact hd
    · rw [finishExponent, if_neg hc] at h
      cases h

theorem sign_exponentSign (s : List Sym) : Sign s (exponentSign s).1 (exponentSign s).2 := by
  unfold exponentSign
  split
  · exact .plus _
  · exact .minus _
  · exact .none _

theorem Sign.exponentSign_eq {s t r : List Sym} {down : Bool} {ds : List Char}
    (h : Sign s down t) (hd : Digits t ds r) (hne : ds ≠ []) : exponentSign s = (down, t) := by
  cases h with
  | none =>
    obtain ⟨c, u, rfl, hc⟩ := hd.head hne
    unfold exponentSign
    split
    · rename_i heq
      cases heq
      exact absurd hc (by decide)
    · rename_i heq
      cases heq
      exact absurd hc (by decide)
    · rfl
  | plus => rfl
  | minus => rfl

theorem readExponent_eq_ok_iff {negative : Bool} {m : Nat} {e : Int} {s r : List Sym}
    {n : Number} :
    readExponent negative m e s = .ok (n, r) ↔ ∃ down ds t, Sign s down t ∧ Digits t ds r ∧
      ds ≠ [] ∧ Literal.scaled? negative m e (some (down, ds)) = some n := by
  constructor
  · intro h
    rw [readExponent] at h
    obtain ⟨ds, hd, hne⟩ := digits_of_finishExponent h
    exact ⟨_, ds, _, sign_exponentSign s, hd, hne, (finishExponent_eq hd hne).mp h⟩
  · rintro ⟨down, ds, t, hs, hd, hne, hn⟩
    rw [readExponent, hs.exponentSign_eq hd hne]
    exact (finishExponent_eq hd hne).mpr hn

theorem readPower_eq_ok_iff {negative : Bool} {m : Nat} {e : Int} {s r : List Sym} {n : Number} :
    readPower negative m e s = .ok (n, r) ↔
      ∃ x, Exponent s x r ∧ Literal.scaled? negative m e x = some n := by
  constructor
  · intro h
    unfold readPower at h
    split at h
    · obtain ⟨down, ds, t, hs, hd, hne, hn⟩ := readExponent_eq_ok_iff.mp h
      exact ⟨_, .digits (.inl rfl) hs hd hne, hn⟩
    · obtain ⟨down, ds, t, hs, hd, hne, hn⟩ := readExponent_eq_ok_iff.mp h
      exact ⟨_, .digits (.inr rfl) hs hd hne, hn⟩
    · rename_i he hE
      obtain ⟨rfl, hn⟩ := finishReal_eq_ok_iff.mp h
      refine ⟨none, .absent ?_, hn⟩
      rintro c t rfl (rfl | rfl)
      · exact he t rfl
      · exact hE t rfl
  · rintro ⟨x, hx, hn⟩
    cases hx with
    | absent hr =>
      unfold readPower
      split
      · rename_i t
        exact absurd (.inl rfl) (hr 'e' t rfl)
      · rename_i t
        exact absurd (.inr rfl) (hr 'E' t rfl)
      · exact finishReal_eq_ok_iff.mpr ⟨rfl, hn⟩
    | digits he hs hd hne =>
      rcases he with rfl | rfl
      · exact readExponent_eq_ok_iff.mpr ⟨_, _, _, hs, hd, hne, hn⟩
      · exact readExponent_eq_ok_iff.mpr ⟨_, _, _, hs, hd, hne, hn⟩

/-! ### Fractions and whole parts -/

theorem readFraction_eq_ok_iff {negative : Bool} {m : Nat} {e : Int} {s r : List Sym}
    {n : Number} :
    readFraction negative m e s = .ok (n, r) ↔ ∃ ds x t, Digits s ds t ∧ ds ≠ [] ∧
      Exponent t x r ∧
      Literal.scaled? negative (keepFraction m ds).1 (e - (keepFraction m ds).2) x = some n := by
  constructor
  · intro h
    rw [readFraction] at h
    dsimp only at h
    split at h
    · split at h <;> cases h
    · rename_i hne
      obtain ⟨x, hx, hn⟩ := readPower_eq_ok_iff.mp h
      exact ⟨_, x, _, digits_spanDigits s, hne, hx, hn⟩
  · rintro ⟨ds, x, t, hd, hne, hx, hn⟩
    rw [readFraction, hd.spanDigits_eq]
    simp only [hne, if_false]
    exact readPower_eq_ok_iff.mpr ⟨x, hx, hn⟩

/-! ### Whole numbers -/

theorem Fraction.length_le {s r : List Sym} {ds : List Char} (h : Fraction s ds r) :
    r.length ≤ s.length := by
  cases h with
  | absent => exact Nat.le_refl _
  | digits h _ => exact Nat.le_succ_of_le h.length_le

theorem Sign.length_le {s r : List Sym} {down : Bool} (h : Sign s down r) :
    r.length ≤ s.length := by
  cases h with
  | none => exact Nat.le_refl _
  | plus => exact Nat.le_succ _
  | minus => exact Nat.le_succ _

theorem Exponent.length_le {s r : List Sym} {x : Option (Bool × List Char)}
    (h : Exponent s x r) : r.length ≤ s.length := by
  cases h with
  | absent => exact Nat.le_refl _
  | digits _ hs hd _ => exact Nat.le_succ_of_le (Nat.le_trans hd.length_le hs.length_le)

namespace Literal

variable {negative : Bool} {whole fraction : List Char} {exponent : Option (Bool × List Char)}

theorem value?_whole (h : (keepWhole 0 whole).2 = 0) :
    value? ⟨negative, whole, [], none⟩ = some (wholeNumber negative (keepWhole 0 whole).1) := by
  simp only [value?, h, and_self, if_true]

theorem value?_fraction (h : fraction ≠ []) :
    value? ⟨negative, whole, fraction, exponent⟩ =
      scaled? negative (keepFraction (keepWhole 0 whole).1 fraction).1
        ((keepWhole 0 whole).2 - (keepFraction (keepWhole 0 whole).1 fraction).2) exponent := by
  simp only [value?, h, false_and, if_false]

theorem value?_exponent (x : Bool × List Char) :
    value? ⟨negative, whole, [], some x⟩ =
      scaled? negative (keepWhole 0 whole).1 (keepWhole 0 whole).2 (some x) := by
  simp only [value?, reduceCtorEq, false_and, and_false, if_false, keepFraction, Int.natCast_zero,
    Int.sub_zero]

theorem value?_long (h : (keepWhole 0 whole).2 ≠ 0) :
    value? ⟨negative, whole, [], none⟩ =
      scaled? negative (keepWhole 0 whole).1 (keepWhole 0 whole).2 none := by
  simp only [value?, h, and_false, if_false, keepFraction, Int.natCast_zero, Int.sub_zero]

end Literal

/-- Without a fraction and an exponent a number is whole if its digits fit. -/
theorem finishNumber_eq_ok_iff {negative : Bool} {whole : List Char} {s r : List Sym}
    {n : Number} :
    finishNumber negative (keepWhole 0 whole).1 (keepWhole 0 whole).2 s = .ok (n, r) ↔
      ∃ fraction exponent t, Fraction s fraction t ∧ Exponent t exponent r ∧
        Literal.value? ⟨negative, whole, fraction, exponent⟩ = some n := by
  constructor
  · intro h
    unfold finishNumber at h
    split at h
    · obtain ⟨ds, x, t, hd, hne, hx, hn⟩ := readFraction_eq_ok_iff.mp h
      exact ⟨ds, x, t, .digits hd hne, hx, (Literal.value?_fraction hne).trans hn⟩
    · obtain ⟨down, ds, t, hs, hd, hne, hn⟩ := readExponent_eq_ok_iff.mp h
      refine ⟨[], _, _, .absent (stops_cons_iff.mpr (by decide)), .digits (.inl rfl) hs hd hne, ?_⟩
      rw [Literal.value?_exponent, hn]
    · obtain ⟨down, ds, t, hs, hd, hne, hn⟩ := readExponent_eq_ok_iff.mp h
      refine ⟨[], _, _, .absent (stops_cons_iff.mpr (by decide)), .digits (.inr rfl) hs hd hne, ?_⟩
      rw [Literal.value?_exponent, hn]
    · rename_i hp he hE
      have hpoint : Stops (· = '.') s := by
        rintro c t rfl rfl
        exact hp t rfl
      have hpower : Stops (fun c => c = 'e' ∨ c = 'E') s := by
        rintro c t rfl (rfl | rfl)
        · exact he t rfl
        · exact hE t rfl
      split at h
      · rename_i hleft
        cases h
        exact ⟨[], none, _, .absent hpoint, .absent hpower, Literal.value?_whole hleft⟩
      · rename_i hleft
        obtain ⟨rfl, hn⟩ := finishReal_eq_ok_iff.mp h
        refine ⟨[], none, _, .absent hpoint, .absent hpower, ?_⟩
        rw [Literal.value?_long hleft]
        exact hn
  · rintro ⟨fraction, exponent, t, hf, hx, hn⟩
    cases hf with
    | digits hd hne =>
      rw [Literal.value?_fraction hne] at hn
      exact readFraction_eq_ok_iff.mpr ⟨_, _, _, hd, hne, hx, hn⟩
    | absent hpoint =>
      cases hx with
      | digits he hs hd hne =>
        rw [Literal.value?_exponent] at hn
        rcases he with rfl | rfl
        · exact readExponent_eq_ok_iff.mpr ⟨_, _, _, hs, hd, hne, hn⟩
        · exact readExponent_eq_ok_iff.mpr ⟨_, _, _, hs, hd, hne, hn⟩
      | absent hpower =>
        unfold finishNumber
        split
        · exact absurd rfl (hpoint _ _ rfl)
        · exact absurd (.inl rfl) (hpower _ _ rfl)
        · exact absurd (.inr rfl) (hpower _ _ rfl)
        · split
          · rename_i hleft
            rw [Literal.value?_whole hleft, Option.some.injEq] at hn
            rw [hn]
          · rename_i hleft
            rw [Literal.value?_long hleft] at hn
            exact finishReal_eq_ok_iff.mpr ⟨rfl, hn⟩

/-- What a whole part may be, by its first digit. -/
theorem whole_iff {c : Char} {cs : List Char} :
    (c :: cs = ['0'] ∨ ∃ d ds, c :: cs = d :: ds ∧ d ≠ '0') ↔ ¬ (c = '0' ∧ cs ≠ []) := by
  constructor
  · rintro (h | ⟨d, ds, h, hd⟩) ⟨hc, hcs⟩
    · exact hcs (List.cons.inj h).2
    · exact hd ((List.cons.inj h).1 ▸ hc)
  · intro h
    by_cases hc : c = '0'
    · have hcs : cs = [] := Decidable.not_not.mp fun hne => h ⟨hc, hne⟩
      exact .inl (by rw [hc, hcs])
    · exact .inr ⟨c, cs, rfl, hc⟩

theorem spanDigits_cons {c : Char} (hc : isDigit c = true) (t : List Sym) :
    spanDigits (.char c :: t) = (c :: (spanDigits t).1, (spanDigits t).2) := by
  rw [spanDigits, if_pos hc]

/-- A number without its sign begins with a digit. -/
theorem Literal.Unsigned.head {l : Literal} {s r : List Sym} (h : l.Unsigned s r) :
    ∃ c t, s = .char c :: t ∧ isDigit c = true := by
  obtain ⟨a, b, hd, hw, -, -⟩ := h
  apply hd.head
  rcases hw with hw | ⟨d, ds, hw, -⟩
  · rw [hw]
    exact List.cons_ne_nil _ _
  · rw [hw]
    exact List.cons_ne_nil _ _

theorem Literal.Unsigned.length_lt {l : Literal} {s r : List Sym} (h : l.Unsigned s r) :
    r.length < s.length := by
  obtain ⟨c, t, hs, hc⟩ := h.head
  obtain ⟨a, b, hd, -, hf, hx⟩ := h
  rw [hs] at hd ⊢
  calc r.length ≤ b.length := hx.length_le
    _ ≤ a.length := hf.length_le
    _ < (Sym.char c :: t).length := hd.length_lt (hd.ne_nil hc)

theorem readNumber_eq_ok_iff {negative : Bool} {s r : List Sym} {n : Number} :
    readNumber negative s = .ok (n, r) ↔
      ∃ l : Literal, l.negative = negative ∧ l.Unsigned s r ∧ l.value? = some n := by
  constructor
  · intro h
    match s with
    | [] => cases h
    | .stray _ :: _ => cases h
    | .char c :: t =>
      by_cases hc : isDigit c = true
      · have hd := digits_spanDigits (.char c :: t)
        rw [spanDigits_cons hc] at hd
        rw [readNumber, if_pos hc, spanDigits_cons hc] at h
        dsimp only at h
        split at h
        · cases h
        · rename_i hz
          obtain ⟨fraction, exponent, b, hf, hx, hn⟩ := finishNumber_eq_ok_iff.mp h
          refine ⟨⟨negative, _, fraction, exponent⟩, rfl, ⟨_, b, hd, whole_iff.mpr ?_, hf, hx⟩, hn⟩
          rintro ⟨h0, hne⟩
          refine hz ⟨h0, fun hlen => hne ?_⟩
          exact List.length_eq_zero_iff.mp (Nat.succ.inj hlen)
      · rw [readNumber, if_neg hc] at h
        cases h
  · rintro ⟨⟨_, whole, fraction, exponent⟩, rfl, hu, hn⟩
    obtain ⟨c, t, rfl, hc⟩ := hu.head
    obtain ⟨a, b, hd, hw, hf, hx⟩ := hu
    have hspan := hd.spanDigits_eq
    rw [spanDigits_cons hc, Prod.mk.injEq] at hspan
    obtain ⟨hwhole, rfl⟩ := hspan
    dsimp only at hwhole
    subst hwhole
    rw [readNumber, if_pos hc, spanDigits_cons hc]
    dsimp only
    rw [if_neg]
    · exact finishNumber_eq_ok_iff.mpr ⟨fraction, exponent, b, hf, hx, hn⟩
    · rintro ⟨h0, hlen⟩
      refine whole_iff.mp hw ⟨h0, fun hnil => hlen ?_⟩
      rw [hnil]
      rfl

/-! ### Numbers that nobody wants -/

theorem skipExponent_eq_ok_iff {s r : List Sym} :
    skipExponent s = .ok ((), r) ↔ ∃ down ds t, Sign s down t ∧ Digits t ds r ∧ ds ≠ [] := by
  constructor
  · intro h
    rw [skipExponent] at h
    split at h
    · cases h
    · rename_i ds u hne heq
      cases h
      exact ⟨_, ds, _, sign_exponentSign s, spanDigits_eq_iff.mp heq, hne⟩
  · rintro ⟨down, ds, t, hs, hd, hne⟩
    rw [skipExponent, hs.exponentSign_eq hd hne, hd.spanDigits_eq]
    split
    · rename_i heq
      cases heq
      exact absurd rfl hne
    · rename_i heq
      cases heq
      rfl

theorem skipPower_eq_ok_iff {s r : List Sym} :
    skipPower s = .ok ((), r) ↔ ∃ x, Exponent s x r := by
  constructor
  · intro h
    unfold skipPower at h
    split at h
    · obtain ⟨down, ds, t, hs, hd, hne⟩ := skipExponent_eq_ok_iff.mp h
      exact ⟨_, .digits (.inl rfl) hs hd hne⟩
    · obtain ⟨down, ds, t, hs, hd, hne⟩ := skipExponent_eq_ok_iff.mp h
      exact ⟨_, .digits (.inr rfl) hs hd hne⟩
    · rename_i he hE
      cases h
      refine ⟨none, .absent ?_⟩
      rintro c t rfl (rfl | rfl)
      · exact he t rfl
      · exact hE t rfl
  · rintro ⟨x, hx⟩
    cases hx with
    | absent hr =>
      unfold skipPower
      split
      · exact absurd (.inl rfl) (hr _ _ rfl)
      · exact absurd (.inr rfl) (hr _ _ rfl)
      · rfl
    | digits he hs hd hne =>
      rcases he with rfl | rfl
      · exact skipExponent_eq_ok_iff.mpr ⟨_, _, _, hs, hd, hne⟩
      · exact skipExponent_eq_ok_iff.mpr ⟨_, _, _, hs, hd, hne⟩

theorem skipFraction_eq_ok_iff {s r : List Sym} :
    skipFraction s = .ok ((), r) ↔ ∃ ds x t, Fraction s ds t ∧ Exponent t x r := by
  constructor
  · intro h
    unfold skipFraction at h
    split at h
    · split at h
      · cases h
      · rename_i ds t hne heq
        obtain ⟨x, hx⟩ := skipPower_eq_ok_iff.mp h
        exact ⟨ds, x, t, .digits (spanDigits_eq_iff.mp heq) hne, hx⟩
    · rename_i hp
      obtain ⟨x, hx⟩ := skipPower_eq_ok_iff.mp h
      refine ⟨[], x, s, .absent ?_, hx⟩
      rintro c t rfl rfl
      exact hp t rfl
  · rintro ⟨ds, x, t, hf, hx⟩
    have hpower := skipPower_eq_ok_iff.mpr ⟨x, hx⟩
    cases hf with
    | absent hr =>
      unfold skipFraction
      split
      · exact absurd rfl (hr _ _ rfl)
      · exact hpower
    | digits hd hne =>
      rw [skipFraction, hd.spanDigits_eq]
      split
      · rename_i heq
        cases heq
        exact absurd rfl hne
      · rename_i heq
        cases heq
        exact hpower

theorem skipNumber_eq_ok_iff {s r : List Sym} :
    skipNumber s = .ok ((), r) ↔ ∃ l : Literal, l.Unsigned s r := by
  constructor
  · intro h
    rw [skipNumber] at h
    split at h
    · cases h
    · rename_i c cs t heq
      split at h
      · cases h
      · rename_i hz
        obtain ⟨ds, x, b, hf, hx⟩ := skipFraction_eq_ok_iff.mp h
        exact ⟨⟨false, c :: cs, ds, x⟩, t, b, spanDigits_eq_iff.mp heq, whole_iff.mpr hz, hf, hx⟩
  · rintro ⟨⟨_, whole, ds, x⟩, hu⟩
    obtain ⟨c, t, rfl, hc⟩ := hu.head
    obtain ⟨a, b, hd, hw, hf, hx⟩ := hu
    have hspan := hd.spanDigits_eq
    rw [spanDigits_cons hc, Prod.mk.injEq] at hspan
    obtain ⟨hwhole, rfl⟩ := hspan
    dsimp only at hwhole
    subst hwhole
    rw [skipNumber, spanDigits_cons hc]
    dsimp only
    rw [if_neg (whole_iff.mp hw)]
    exact skipFraction_eq_ok_iff.mpr ⟨ds, x, b, hf, hx⟩

end Stagehand.Json
