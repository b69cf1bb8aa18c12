import Stagehand.Proofs.Json.Value

/-!
# What is passed over against the grammar
A value that nobody wants is passed over with a stack of the containers that are open. Every step
of that is a step of the grammar, in which containers stand inside each other.
-/

namespace Stagehand.Json

/-! ### Parts of containers -/

theorem Frame.enter_eq_ok_iff {f : Frame} {s r : List Sym} :
    f.enter s = .ok r ↔ Entered f s r := by
  cases f with
  | array =>
    rw [Frame.enter, Except.ok.injEq]
    exact Iff.rfl
  | object =>
    constructor
    · intro h
      rw [Frame.enter] at h
      split at h
      · cases h
      · rename_i c t hs
        split at h
        · rename_i hc
          subst hc
          split at h
          · cases h
          · rename_i u hu
            exact ⟨t, u, (skipBlanks_eq_char_iff (by decide)).mp hs, skipString_eq_ok_iff.mp hu,
              readColon_eq_ok_iff.mp h⟩
        · cases h
    · rintro ⟨t, u, hq, hl, hc⟩
      rw [Frame.enter, (skipBlanks_eq_char_iff (by decide)).mpr hq]
      dsimp only
      rw [if_pos rfl, skipString_eq_ok_iff.mpr hl]
      exact readColon_eq_ok_iff.mpr hc

theorem Entered.length_le {f : Frame} {s r : List Sym} (h : Entered f s r) :
    r.length ≤ s.length := by
  cases f with
  | array => exact Nat.le_of_eq (congrArg List.length h.symm)
  | object =>
    obtain ⟨t, u, hq, hl, hc⟩ := h
    exact Nat.le_of_lt (Nat.lt_trans hc.length_lt (Nat.lt_trans hl.length_lt hq.length_lt))

theorem not_isBlank_closer (f : Frame) : ¬ IsBlank (.char f.closer) := by
  cases f <;> decide

theorem closer_ne_comma (f : Frame) : Sym.char f.closer ≠ .char ',' := by
  cases f <;> decide

theorem not_isBlank_opener (f : Frame) : ¬ IsBlank (.char f.opener) := by
  cases f <;> decide

theorem lead_opener (f : Frame) : Lead.of (.char f.opener) ≠ .other := by
  cases f <;> decide

/-- The first letter of a word tells that a value begins with it. -/
theorem lead_word {w : List Char}
    (hw : w ∈ [['n', 'u', 'l', 'l'], ['t', 'r', 'u', 'e'], ['f', 'a', 'l', 's', 'e']]) :
    ∃ c cs, w = c :: cs ∧ Lead.of (.char c) ≠ .other := by
  rcases List.mem_cons.mp hw with rfl | hw
  · exact ⟨_, _, rfl, by decide⟩
  rcases List.mem_cons.mp hw with rfl | hw
  · exact ⟨_, _, rfl, by decide⟩
  · exact ⟨_, _, List.mem_singleton.mp hw, by decide⟩

theorem SkippedScalar.length_lt {s r : List Sym} (h : SkippedScalar s r) :
    r.length < s.length := by
  cases h with
  | word hw h =>
    obtain ⟨c, cs, rfl, -⟩ := lead_word hw
    have hle := h.length_le
    rw [List.length_append, Utf8.ofChars, List.length_map, List.length_cons] at hle
    omega
  | number h hl => exact Nat.lt_of_lt_of_le hl.length_lt h.length_le
  | string h ht => exact Nat.lt_trans ht.length_lt h.length_lt

theorem Skipped.length_lt {k : Skipping} {s r : List Sym} (h : Skipped k s r) :
    r.length < s.length := by
  induction h with
  | scalar h => exact h.length_lt
  | container h _ ih => exact Nat.lt_trans ih h.length_lt
  | close h => exact Mark.length_lt h
  | element hs he _ _ ihv ihr =>
    calc _ < _ := ihr
      _ < _ := ihv
      _ ≤ _ := he.length_le
      _ ≤ _ := hs.length_le

theorem SkippedScalar.leads {s r : List Sym} (h : SkippedScalar s r) :
    ∃ c t, skipBlanks s = c :: t ∧ Lead.of c ≠ .other := by
  cases h with
  | word hw h =>
    obtain ⟨c, cs, rfl, hc⟩ := lead_word hw
    exact ⟨_, _, skipBlanks_word (not_isBlank_of_lead hc) h, hc⟩
  | number h hl =>
    obtain ⟨c, t, hs, hc⟩ := hl.leads h
    refine ⟨c, t, hs, ?_⟩
    rcases hc with hc | hc <;> simp [hc]
  | string h => exact ⟨_, _, (skipBlanks_eq_char_iff (by decide)).mpr h, by decide⟩

/-- What is passed over begins as a value does. -/
theorem Skipped.leads {s r : List Sym} (h : Skipped .value s r) :
    ∃ c t, skipBlanks s = c :: t ∧ Lead.of c ≠ .other := by
  cases h with
  | scalar h => exact h.leads
  | @container f _ t _ h hr =>
    exact ⟨_, t, (skipBlanks_eq_char_iff (not_isBlank_opener f)).mpr h, lead_opener f⟩

/-- A container does not end where an element of it is. -/
theorem Entered.not_closer {f : Frame} {s t r : List Sym} (h : Entered f s t)
    (hv : Skipped .value t r) (u : List Sym) : ¬ Mark f.closer s u := by
  intro hu
  rw [← skipBlanks_eq_char_iff (not_isBlank_closer f)] at hu
  cases f with
  | array =>
    replace h : s = t := h
    subst h
    obtain ⟨c, v, hc, hlead⟩ := hv.leads
    rw [hu] at hc
    cases hc
    exact hlead lead_close
  | object =>
    obtain ⟨v, w, hq, -, -⟩ := h
    rw [(skipBlanks_eq_char_iff (by decide)).mpr hq] at hu
    cases hu

/-! ### Each step of the stack is one of the grammar -/

/-- What is left of the open containers, the innermost of which comes first and may have had no
element yet. -/
def Closes : (first : Bool) → List Frame → List Sym → List Sym → Prop
  | _, [], s, r => s = r
  | first, f :: frames, s, r => ∃ t, Skipped (.rest f first) s t ∧ Closes false frames t r

/-- What is passed over where a reader stands. -/
def Passes : SkipPhase → List Frame → List Sym → List Sym → Prop
  | .value, frames, s, r => ∃ t, Skipped .value s t ∧ Closes false frames t r
  | .after comma, frames, s, r => Closes (!comma) frames s r

/-- How many steps are enough for what is left. -/
def SkipPhase.enough : SkipPhase → List Sym → Nat
  | .value, s => 2 * s.length + 1
  | .after _, s => 2 * s.length + 2

theorem skipFrom_value_skipBlanks (fuel : Nat) (frames : List Frame) (s : List Sym) :
    skipFrom (fuel + 1) .value frames (skipBlanks s) = skipFrom (fuel + 1) .value frames s := by
  rw [skipFrom, skipFrom, skipBlanks_skipBlanks]

/-- The next element of a container, by a reader that stands before it. -/
def skipInside (fuel : Nat) (f : Frame) (frames : List Frame) : Reader Unit
  | s => match f.enter s with
    | .error e => .error e
    | .ok r => skipFrom fuel .value (f :: frames) r

theorem skipInside_skipBlanks {fuel : Nat} (hf : 0 < fuel) (f : Frame) (frames : List Frame)
    (s : List Sym) : skipInside fuel f frames (skipBlanks s) = skipInside fuel f frames s := by
  obtain ⟨fuel, rfl⟩ := Nat.exists_eq_succ_of_ne_zero (Nat.ne_of_gt hf)
  cases f with
  | array => exact skipFrom_value_skipBlanks fuel _ s
  | object => rw [skipInside, skipInside, Frame.enter, Frame.enter, skipBlanks_skipBlanks]

theorem skipInside_eq_ok_iff {fuel : Nat} {f : Frame} {frames : List Frame} {s r : List Sym} :
    skipInside fuel f frames s = .ok ((), r) ↔
      ∃ t, Entered f s t ∧ skipFrom fuel .value (f :: frames) t = .ok ((), r) := by
  rw [skipInside]
  constructor
  · intro h
    split at h
    · cases h
    · rename_i t ht
      exact ⟨t, Frame.enter_eq_ok_iff.mp ht, h⟩
  · rintro ⟨t, ht, h⟩
    rw [Frame.enter_eq_ok_iff.mpr ht]
    exact h

theorem skipInside_nil {fuel : Nat} (hf : 0 < fuel) {f : Frame} {frames : List Frame}
    {r : List Sym} : skipInside fuel f frames [] ≠ .ok ((), r) := by
  obtain ⟨fuel, rfl⟩ := Nat.exists_eq_succ_of_ne_zero (Nat.ne_of_gt hf)
  intro h
  cases f with
  | array => cases h
  | object => cases h

/-- Where the innermost container ends, its element is over; otherwise another one comes. -/
theorem skipFrom_after_iff {fuel : Nat} (hf : 0 < fuel) {comma : Bool} {f : Frame}
    {frames : List Frame} {s r : List Sym} :
    skipFrom (fuel + 1) (.after comma) (f :: frames) s = .ok ((), r) ↔
      (∃ t, Mark f.closer s t ∧ skipFrom fuel (.after true) frames t = .ok ((), r)) ∨
      (∀ u, ¬ Mark f.closer s u) ∧
        ∃ t, Separator (!comma) s t ∧ skipInside fuel f frames t = .ok ((), r) := by
  have hclose {u : List Sym} := skipBlanks_eq_char_iff (s := s) (r := u) (not_isBlank_closer f)
  constructor
  · intro h
    simp only [skipFrom] at h
    split at h
    · cases h
    rename_i c t hs
    split at h
    · rename_i hc
      obtain ⟨rfl, rfl⟩ := hc
      refine .inr ⟨fun u hu => ?_, t, (skipBlanks_eq_char_iff (by decide)).mp hs, h⟩
      rw [← hclose, hs] at hu
      exact closer_ne_comma f (List.cons.inj hu).1.symm
    split at h
    · rename_i hc
      subst hc
      exact .inl ⟨t, hclose.mp hs, h⟩
    · rename_i hc
      split at h
      · cases h
      · rename_i hcomma
        replace h : skipInside fuel f frames (c :: t) = .ok ((), r) := h
        rw [← hs, skipInside_skipBlanks hf] at h
        refine .inr ⟨fun u hu => ?_, s, ?_, h⟩
        · rw [← hclose, hs] at hu
          exact hc (List.cons.inj hu).1
        · rw [Bool.eq_false_iff.mpr hcomma]
          exact rfl
  · rintro (⟨t, ht, h⟩ | ⟨hne, t, hsep, h⟩)
    · simp only [skipFrom]
      rw [hclose.mpr ht]
      dsimp only
      rw [if_neg fun hc => closer_ne_comma f hc.1, if_pos rfl]
      exact h
    · simp only [skipFrom]
      cases comma with
      | true =>
        rw [(skipBlanks_eq_char_iff (by decide)).mpr hsep]
        exact h
      | false =>
        replace hsep : s = t := hsep
        subst hsep
        rw [← skipInside_skipBlanks hf] at h
        cases hs : skipBlanks s with
        | nil =>
          rw [hs] at h
          exact absurd h (skipInside_nil hf)
        | cons c u =>
          rw [hs] at h
          dsimp only
          rw [if_neg (fun hc => Bool.false_ne_true hc.2), if_neg, if_neg Bool.false_ne_true]
          · exact h
          · rintro rfl
            exact hne u (hclose.mp hs)

/-- What comes behind a value without elements, once that was passed over. -/
def skipOnward (fuel : Nat) (frames : List Frame) :
    Except Fault (Unit × List Sym) → Except Fault (Unit × List Sym)
  | .error e => .error e
  | .ok (_, r) => skipFrom fuel (.after true) frames r

section Onward

variable {fuel : Nat} {frames : List Frame} {s t r : List Sym}

theorem skipOnward_eq_ok_iff {x : Except Fault (Unit × List Sym)} :
    skipOnward fuel frames x = .ok ((), r) ↔
      ∃ t, x = .ok ((), t) ∧ skipFrom fuel (.after true) frames t = .ok ((), r) := by
  cases x with
  | error e =>
    constructor
    · intro h
      cases h
    · rintro ⟨t, ht, -⟩
      cases ht
  | ok p =>
    constructor
    · intro h
      exact ⟨p.2, rfl, h⟩
    · rintro ⟨t, ht, h⟩
      cases ht
      exact h

/-- The letters of a word, of which the first one has been looked at. -/
theorem skipped_word {c : Char} {cs : List Char} (hb : Blanks s (.char c :: t))
    (hw : c :: cs ∈ [['n', 'u', 'l', 'l'], ['t', 'r', 'u', 'e'], ['f', 'a', 'l', 's', 'e']])
    (h : skipOnward fuel frames (readWord cs t) = .ok ((), r)) :
    ∃ u, SkippedScalar s u ∧ skipFrom fuel (.after true) frames u = .ok ((), r) := by
  obtain ⟨u, hu, hr⟩ := skipOnward_eq_ok_iff.mp h
  rw [readWord_eq_ok_iff] at hu
  subst hu
  exact ⟨u, .word hw hb, hr⟩

/-- The digits of a number, with a minus sign before them or without. -/
theorem skipped_number {v : List Sym} (hb : Blanks s v) (hv : v = .char '-' :: t ∨ v = t)
    (h : skipOnward fuel frames (skipNumber t) = .ok ((), r)) :
    ∃ u, SkippedScalar s u ∧ skipFrom fuel (.after true) frames u = .ok ((), r) := by
  obtain ⟨u, hu, hr⟩ := skipOnward_eq_ok_iff.mp h
  obtain ⟨l, hl⟩ := skipNumber_eq_ok_iff.mp hu
  rcases hv with rfl | rfl
  · exact ⟨u, .number hb (l := { l with negative := true }) ⟨t, rfl, hl⟩, hr⟩
  · exact ⟨u, .number hb (l := { l with negative := false }) hl, hr⟩

theorem skipFrom_word {w : List Char}
    (hw : w ∈ [['n', 'u', 'l', 'l'], ['t', 'r', 'u', 'e'], ['f', 'a', 'l', 's', 'e']])
    (hb : Blanks s (Utf8.ofChars w ++ t)) :
    skipFrom (fuel + 1) .value frames s = skipFrom fuel (.after true) frames t := by
  simp only [List.mem_cons, List.not_mem_nil, or_false] at hw
  rcases hw with rfl | rfl | rfl
  all_goals
    rw [skipFrom, skipBlanks_word (by decide) hb]
    dsimp only [Lead.of]
    rw [readWord_eq_ok_iff.mpr rfl]
    rfl

theorem skipFrom_number {l : Literal} (hb : Blanks s t) (hl : l.Written t r) :
    skipFrom (fuel + 1) .value frames s = skipFrom fuel (.after true) frames r := by
  rw [Literal.Written] at hl
  split at hl
  · obtain ⟨v, rfl, hv⟩ := hl
    rw [skipFrom, (skipBlanks_eq_char_iff (by decide)).mpr hb]
    dsimp only [Lead.of]
    rw [skipNumber_eq_ok_iff.mpr ⟨l, hv⟩]
    rfl
  · obtain ⟨d, v, rfl, hd⟩ := hl.head
    have hlead := Lead.of_digit hd
    have hblank : ¬ IsBlank (.char d) := not_isBlank_of_lead (by rw [hlead]; decide)
    rw [skipFrom, (skipBlanks_eq_char_iff hblank).mpr hb]
    dsimp only
    rw [hlead]
    dsimp only
    rw [skipNumber_eq_ok_iff.mpr ⟨l, hl⟩]

/-- Behind a value without elements a reader goes on with what the value stands in. -/
theorem skipFrom_scalar (h : SkippedScalar s t) :
    skipFrom (fuel + 1) .value frames s = skipFrom fuel (.after true) frames t := by
  cases h with
  | word hw hb => exact skipFrom_word hw hb
  | number hb hl => exact skipFrom_number hb hl
  | string hq hl =>
    rw [skipFrom, (skipBlanks_eq_char_iff (by decide)).mpr hq]
    dsimp only [Lead.of]
    rw [skipString_eq_ok_iff.mpr hl]
    rfl

theorem skipFrom_opener {f : Frame} (h : Mark f.opener s t) :
    skipFrom (fuel + 1) .value frames s = skipFrom fuel (.after false) (f :: frames) t := by
  rw [skipFrom, (skipBlanks_eq_char_iff (not_isBlank_opener f)).mpr h]
  cases f <;> rfl

/-- A value is over at once, or it opens a container. -/
theorem skipFrom_value_iff :
    skipFrom (fuel + 1) .value frames s = .ok ((), r) ↔
      (∃ t, SkippedScalar s t ∧ skipFrom fuel (.after true) frames t = .ok ((), r)) ∨
      ∃ f t, Mark f.opener s t ∧ skipFrom fuel (.after false) (f :: frames) t = .ok ((), r) := by
  constructor
  · intro h
    simp only [skipFrom] at h
    split at h
    · cases h
    rename_i c t hs
    have hb : Blanks s (c :: t) := by
      rw [← hs]
      exact blanks_skipBlanks s
    have hc := Lead.tells_of c
    split at h
    all_goals
      rename_i hl
      rw [hl] at hc
    · cases hc
      exact .inl (skipped_word hb (.head _) h)
    · cases hc
      exact .inl (skipped_word hb (.tail _ (.head _)) h)
    · cases hc
      exact .inl (skipped_word hb (.tail _ (.tail _ (.head _))) h)
    · cases hc
      exact .inl (skipped_number hb (.inl rfl) h)
    · exact .inl (skipped_number hb (.inr rfl) h)
    · cases hc
      obtain ⟨u, hu, hr⟩ := skipOnward_eq_ok_iff.mp h
      exact .inl ⟨u, .string hb (skipString_eq_ok_iff.mp hu), hr⟩
    · cases hc
      exact .inr ⟨.array, t, hb, h⟩
    · cases hc
      exact .inr ⟨.object, t, hb, h⟩
    · cases h
  · rintro (⟨t, ht, h⟩ | ⟨f, t, ht, h⟩)
    · rw [skipFrom_scalar ht]
      exact h
    · rw [skipFrom_opener ht]
      exact h

end Onward

/-- What is passed over from where a reader stands is what the grammar says, if the reader may
make enough steps. -/
theorem skipFrom_eq_ok_iff {fuel : Nat} {phase : SkipPhase} {frames : List Frame}
    {s r : List Sym} (hf : phase.enough s ≤ fuel) :
    skipFrom fuel phase frames s = .ok ((), r) ↔ Passes phase frames s r := by
  induction fuel generalizing phase frames s with
  | zero => cases phase <;> exact absurd hf (Nat.not_succ_le_zero _)
  | succ fuel ih =>
    cases phase with
    | value =>
      replace hf : 2 * s.length + 1 ≤ fuel + 1 := hf
      rw [skipFrom_value_iff]
      constructor
      · rintro (⟨t, ht, h⟩ | ⟨f, t, ht, h⟩)
        · have hlt := ht.length_lt
          exact ⟨t, .scalar ht, (ih (by dsimp only [SkipPhase.enough]; omega)).mp h⟩
        · have hlt := ht.length_lt
          obtain ⟨u, hu, h⟩ := (ih (by dsimp only [SkipPhase.enough]; omega)).mp h
          exact ⟨u, .container ht hu, h⟩
      · rintro ⟨t, ht, h⟩
        cases ht with
        | scalar ht =>
          have hlt := ht.length_lt
          exact .inl ⟨t, ht, (ih (by dsimp only [SkipPhase.enough]; omega)).mpr h⟩
        | @container f _ u _ hu hr =>
          have hlt := hu.length_lt
          refine .inr ⟨f, u, hu, (ih (by dsimp only [SkipPhase.enough]; omega)).mpr ?_⟩
          exact ⟨t, hr, h⟩
    | after comma =>
      replace hf : 2 * s.length + 2 ≤ fuel + 1 := hf
      cases frames with
      | nil =>
        rw [skipFrom, Except.ok.injEq, Prod.mk.injEq]
        exact ⟨fun h => h.2, fun h => ⟨rfl, h⟩⟩
      | cons f frames =>
        rw [skipFrom_after_iff (by omega)]
        constructor
        · rintro (⟨t, ht, h⟩ | ⟨-, t, hsep, h⟩)
          · have hlt := ht.length_lt
            exact ⟨t, .close ht, (ih (by dsimp only [SkipPhase.enough]; omega)).mp h⟩
          · obtain ⟨u, he, h⟩ := skipInside_eq_ok_iff.mp h
            have hle : u.length ≤ s.length := Nat.le_trans he.length_le hsep.length_le
            obtain ⟨v, hv, w, hw, h⟩ := (ih (by dsimp only [SkipPhase.enough]; omega)).mp h
            exact ⟨w, .element hsep he hv hw, h⟩
        · rintro ⟨t, ht, h⟩
          cases ht with
          | close ht =>
            have hlt := Mark.length_lt ht
            exact .inl ⟨t, ht, (ih (by dsimp only [SkipPhase.enough]; omega)).mpr h⟩
          | @element _ _ _ u v w _ hsep he hv hr =>
            have hle : v.length ≤ s.length := Nat.le_trans he.length_le hsep.length_le
            refine .inr ⟨?_, u, hsep, skipInside_eq_ok_iff.mpr ⟨v, he, ?_⟩⟩
            · intro x hx
              cases comma with
              | false =>
                replace hsep : s = u := hsep
                subst hsep
                exact he.not_closer hv x hx
              | true =>
                rw [← skipBlanks_eq_char_iff (not_isBlank_closer f),
                  (skipBlanks_eq_char_iff (by decide)).mpr hsep] at hx
                exact closer_ne_comma f (List.cons.inj hx).1.symm
            · exact (ih (by dsimp only [SkipPhase.enough]; omega)).mpr ⟨w, hv, t, hr, h⟩

/-- A value that nobody wants is passed over exactly where the grammar has one. -/
theorem skipValue_eq_ok_iff {s r : List Sym} :
    skipValue s = .ok ((), r) ↔ Skipped .value s r := by
  have hf : SkipPhase.value.enough s ≤ 2 * s.length + 2 := Nat.le_succ _
  rw [skipValue, skipFrom_eq_ok_iff hf]
  constructor
  · rintro ⟨t, ht, rfl⟩
    exact ht
  · intro h
    exact ⟨r, h, rfl⟩

end Stagehand.Json
