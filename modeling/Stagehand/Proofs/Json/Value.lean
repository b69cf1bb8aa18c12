import Stagehand.Proofs.Json.Number

/-!
# Values against the grammar
The readers of containers read whatever the grammar makes of the things that their parts read, and
so does the reader of values of any shape.
-/

namespace Stagehand.Json

variable {α : Type}

/-! ### What readers read -/

/-- A reader of things that begin as values do, and the relation that says what it reads. -/
structure Reads (reader : Reader α) (R : List Sym → α → List Sym → Prop) : Prop where
  iff {s : List Sym} {a : α} {r : List Sym} : reader s = .ok (a, r) ↔ R s a r
  blanks (s : List Sym) : reader (skipBlanks s) = reader s
  leads {s : List Sym} {a : α} {r : List Sym} (h : R s a r) :
    ∃ c t, skipBlanks s = c :: t ∧ Lead.of c ≠ .other
  shorter {s : List Sym} {a : α} {r : List Sym} (h : R s a r) : r.length < s.length

theorem Separator.length_le {first : Bool} {s r : List Sym} (h : Separator first s r) :
    r.length ≤ s.length := by
  cases first with
  | true => exact Nat.le_of_eq (congrArg List.length h.symm)
  | false => exact Nat.le_of_lt (Mark.length_lt h)

/-! ### Items -/

theorem nextItem_close_iff {first : Bool} {s t : List Sym} :
    nextItem first s = .ok (false, t) ↔ ∃ r, t = .char ']' :: r ∧ Mark ']' s r := by
  constructor
  · intro h
    rw [nextItem] at h
    split at h
    · cases h
    · rename_i c r hs
      split at h
      · rename_i hc
        cases h
        subst hc
        exact ⟨r, rfl, (skipBlanks_eq_char_iff (by decide)).mp hs⟩
      · split at h
        · cases h
        · split at h
          · split at h
            · cases h
            · split at h <;> cases h
          · cases h
  · rintro ⟨r, rfl, h⟩
    rw [nextItem, (skipBlanks_eq_char_iff (by decide)).mpr h]
    exact if_pos rfl

theorem nextItem_more_iff {first : Bool} {s t : List Sym} :
    nextItem first s = .ok (true, t) ↔
      ∃ u, Separator first s u ∧ t = skipBlanks u ∧ ∃ c v, t = c :: v ∧ c ≠ .char ']' := by
  constructor
  · intro h
    rw [nextItem] at h
    split at h
    · cases h
    · rename_i c r hs
      split at h
      · cases h
      · rename_i hc
        split at h
        · rename_i hf
          cases h
          subst hf
          exact ⟨s, rfl, hs.symm, c, r, rfl, hc⟩
        · rename_i hf
          split at h
          · rename_i hcomma
            subst hcomma
            split at h
            · cases h
            · rename_i d v hr
              split at h
              · cases h
              · rename_i hd
                cases h
                rw [Bool.eq_false_iff.mpr hf]
                exact ⟨r, (skipBlanks_eq_char_iff (by decide)).mp hs, hr.symm, d, v, rfl, hd⟩
          · cases h
  · rintro ⟨u, hsep, rfl, c, v, hu, hc⟩
    cases first with
    | true =>
      replace hsep : s = u := hsep
      subst hsep
      simp only [nextItem, hu, hc, if_false, if_true]
    | false =>
      have hs := (skipBlanks_eq_char_iff (by decide)).mpr hsep
      simp only [nextItem, hs, hu, hc, reduceCtorEq, Sym.char.injEq, Char.reduceEq, if_false,
        if_true]

theorem lead_close : Lead.of (.char ']') = .other := by decide

theorem readItems_of_items {item : Reader α} {R : List Sym → α → List Sym → Prop}
    (hR : Reads item R) {first : Bool} {s r : List Sym} {as : List α}
    (h : Items R first s as r) {fuel : Nat} (hf : s.length < fuel) :
    readItems item fuel first s = .ok (as, .char ']' :: r) := by
  induction h generalizing fuel with
  | close h =>
    obtain ⟨fuel, rfl⟩ := Nat.exists_eq_succ_of_ne_zero (Nat.ne_zero_of_lt hf)
    rw [readItems, nextItem_close_iff.mpr ⟨_, rfl, h⟩]
  | @item first a as s t u r hs ha _ ih =>
    obtain ⟨fuel, rfl⟩ := Nat.exists_eq_succ_of_ne_zero (Nat.ne_zero_of_lt hf)
    obtain ⟨c, v, ht, hc⟩ := hR.leads ha
    have hnext : nextItem first s = .ok (true, skipBlanks t) := by
      refine nextItem_more_iff.mpr ⟨t, hs, rfl, c, v, ht, ?_⟩
      rintro rfl
      exact hc lead_close
    have hshort : u.length < fuel :=
      calc u.length < t.length := hR.shorter ha
        _ ≤ s.length := hs.length_le
        _ ≤ fuel := Nat.le_of_lt_succ hf
    rw [readItems, hnext]
    dsimp only
    rw [hR.blanks, hR.iff.mpr ha]
    dsimp only
    rw [ih hshort]

theorem items_of_readItems {item : Reader α} {R : List Sym → α → List Sym → Prop}
    (hR : Reads item R) {fuel : Nat} {first : Bool} {s t : List Sym} {as : List α}
    (h : readItems item fuel first s = .ok (as, t)) (hf : s.length < fuel) :
    ∃ r, t = .char ']' :: r ∧ Items R first s as r := by
  induction fuel generalizing first s as with
  | zero => exact absurd hf (Nat.not_lt_zero _)
  | succ fuel ih =>
    rw [readItems] at h
    split at h
    · cases h
    · rename_i u hnext
      cases h
      obtain ⟨r, ht, hm⟩ := nextItem_close_iff.mp hnext
      exact ⟨r, ht, .close hm⟩
    · rename_i u hnext
      obtain ⟨v, hs, rfl, -⟩ := nextItem_more_iff.mp hnext
      rw [hR.blanks] at h
      split at h
      · cases h
      · rename_i a w ha
        rw [hR.iff] at ha
        have hshort : w.length < fuel :=
          calc w.length < v.length := hR.shorter ha
            _ ≤ s.length := hs.length_le
            _ ≤ fuel := Nat.le_of_lt_succ hf
        split at h
        · cases h
        · rename_i bs x hrest
          cases h
          obtain ⟨r, rfl, hi⟩ := ih hrest hshort
          exact ⟨r, rfl, .item hs ha hi⟩

/-- An array is read exactly where its items are spelled up to its closing bracket. -/
theorem readArray_eq_ok_iff {item : Reader α} {R : List Sym → α → List Sym → Prop}
    (hR : Reads item R) {s r : List Sym} {as : List α} :
    readArray item s = .ok (as, r) ↔ Items R true s as r := by
  constructor
  · intro h
    rw [readArray] at h
    split at h
    · cases h
    · rename_i bs t hi
      obtain ⟨u, rfl, hitems⟩ := items_of_readItems hR hi (Nat.lt_succ_self _)
      split at h
      · cases h
      · rename_i v hclose
        cases h
        cases hclose
        exact hitems
  · intro h
    rw [readArray, readItems_of_items hR h (Nat.lt_succ_self _)]
    rfl

theorem Items.length_lt {R : List Sym → α → List Sym → Prop}
    (hR : ∀ {s a r}, R s a r → r.length < s.length) {first : Bool} {s r : List Sym}
    {as : List α} (h : Items R first s as r) : r.length < s.length := by
  induction h with
  | close h => exact Mark.length_lt h
  | item hs ha _ ih => exact Nat.lt_of_lt_of_le (Nat.lt_trans ih (hR ha)) hs.length_le

/-! ### Members -/

theorem nextName_close_iff {first : Bool} {s t : List Sym} :
    nextName first s = .ok (false, t) ↔ ∃ r, t = .char '}' :: r ∧ Mark '}' s r := by
  constructor
  · intro h
    rw [nextName] at h
    split at h
    · cases h
    · rename_i c r hs
      split at h
      · rename_i hc
        cases h
        subst hc
        exact ⟨r, rfl, (skipBlanks_eq_char_iff (by decide)).mp hs⟩
      · split at h
        · split at h <;> cases h
        · split at h
          · split at h
            · cases h
            · split at h
              · cases h
              · split at h <;> cases h
          · cases h
  · rintro ⟨r, rfl, h⟩
    rw [nextName, (skipBlanks_eq_char_iff (by decide)).mpr h]
    exact if_pos rfl

theorem nextName_more_iff {first : Bool} {s t : List Sym} :
    nextName first s = .ok (true, t) ↔ ∃ u, Separator first s u ∧ Mark '"' u t := by
  constructor
  · intro h
    rw [nextName] at h
    split at h
    · cases h
    · rename_i c r hs
      split at h
      · cases h
      · split at h
        · rename_i hf
          split at h
          · rename_i hc
            cases h
            subst hf hc
            exact ⟨s, rfl, (skipBlanks_eq_char_iff (by decide)).mp hs⟩
          · cases h
        · rename_i hf
          split at h
          · rename_i hcomma
            subst hcomma
            split at h
            · cases h
            · rename_i d v hr
              split at h
              · rename_i hd
                cases h
                subst hd
                rw [Bool.eq_false_iff.mpr hf]
                exact ⟨r, (skipBlanks_eq_char_iff (by decide)).mp hs,
                  (skipBlanks_eq_char_iff (by decide)).mp hr⟩
              · split at h <;> cases h
          · cases h
  · rintro ⟨u, hsep, hu⟩
    have hu' := (skipBlanks_eq_char_iff (by decide)).mpr hu
    cases first with
    | true =>
      replace hsep : s = u := hsep
      subst hsep
      simp only [nextName, hu', Sym.char.injEq, Char.reduceEq, if_false, if_true]
    | false =>
      have hs := (skipBlanks_eq_char_iff (by decide)).mpr hsep
      simp only [nextName, hs, hu', reduceCtorEq, Sym.char.injEq, Char.reduceEq, if_false,
        if_true]

theorem readColon_eq_ok_iff {s r : List Sym} : readColon s = .ok r ↔ Mark ':' s r := by
  rw [← skipBlanks_eq_char_iff (by decide), readColon]
  constructor
  · intro h
    split at h
    · cases h
    · rename_i c t hs
      split at h
      · rename_i hc
        cases h
        rw [hs, hc]
      · cases h
  · intro h
    rw [h]
    exact if_pos rfl

theorem Name.length_lt {s r : List Sym} {name : String} (h : Name s name r) :
    r.length < s.length := by
  obtain ⟨t, u, hq, hl, hc⟩ := h
  exact Nat.lt_trans hc.length_lt (Nat.lt_trans hl.length_lt hq.length_lt)

theorem readMember_eq_ok_iff {value : Reader α} {R : List Sym → α → List Sym → Prop}
    (hR : Reads value R) {s r : List Sym} {name : String} {a : α} :
    readMember value s = .ok ((name, a), r) ↔
      ∃ t u, Letters s name.toList t ∧ Mark ':' t u ∧ R u a r := by
  constructor
  · intro h
    rw [readMember] at h
    split at h
    · cases h
    · rename_i n t hn
      split at h
      · cases h
      · rename_i u hc
        split at h
        · cases h
        · rename_i b v ha
          cases h
          exact ⟨t, u, readString_eq_ok_iff.mp hn, readColon_eq_ok_iff.mp hc, hR.iff.mp ha⟩
  · rintro ⟨t, u, hn, hc, ha⟩
    simp only [readMember, readString_eq_ok_iff.mpr hn, readColon_eq_ok_iff.mpr hc,
      hR.iff.mpr ha]

theorem readEntries_of_entries {value : Reader α} {R : List Sym → α → List Sym → Prop}
    (hR : Reads value R) {first : Bool} {s r : List Sym} {ms : List (String × α)}
    (h : Entries R first s ms r) {fuel : Nat} (hf : s.length < fuel) :
    readEntries value fuel first s = .ok (ms, .char '}' :: r) := by
  induction h generalizing fuel with
  | close h =>
    obtain ⟨fuel, rfl⟩ := Nat.exists_eq_succ_of_ne_zero (Nat.ne_zero_of_lt hf)
    rw [readEntries, nextName_close_iff.mpr ⟨_, rfl, h⟩]
  | @entry first name a ms s t u v r hs hn ha _ ih =>
    obtain ⟨fuel, rfl⟩ := Nat.exists_eq_succ_of_ne_zero (Nat.ne_zero_of_lt hf)
    have hshort : v.length < fuel :=
      calc v.length < u.length := hR.shorter ha
        _ ≤ t.length := Nat.le_of_lt hn.length_lt
        _ ≤ s.length := hs.length_le
        _ ≤ fuel := Nat.le_of_lt_succ hf
    obtain ⟨x, y, hq, hl, hc⟩ := hn
    have hmember := (readMember_eq_ok_iff hR).mpr ⟨y, u, hl, hc, ha⟩
    rw [readEntries, nextName_more_iff.mpr ⟨t, hs, hq⟩]
    dsimp only
    rw [hmember]
    dsimp only
    rw [ih hshort]

theorem entries_of_readEntries {value : Reader α} {R : List Sym → α → List Sym → Prop}
    (hR : Reads value R) {fuel : Nat} {first : Bool} {s t : List Sym} {ms : List (String × α)}
    (h : readEntries value fuel first s = .ok (ms, t)) (hf : s.length < fuel) :
    ∃ r, t = .char '}' :: r ∧ Entries R first s ms r := by
  induction fuel generalizing first s ms with
  | zero => exact absurd hf (Nat.not_lt_zero _)
  | succ fuel ih =>
    rw [readEntries] at h
    split at h
    · cases h
    · rename_i u hnext
      cases h
      obtain ⟨r, ht, hm⟩ := nextName_close_iff.mp hnext
      exact ⟨r, ht, .close hm⟩
    · rename_i u hnext
      obtain ⟨v, hs, hq⟩ := nextName_more_iff.mp hnext
      split at h
      · cases h
      · rename_i m w hm
        obtain ⟨name, a⟩ := m
        obtain ⟨x, y, hl, hc, ha⟩ := (readMember_eq_ok_iff hR).mp hm
        have hn : Name v name y := ⟨u, x, hq, hl, hc⟩
        have hshort : w.length < fuel :=
          calc w.length < y.length := hR.shorter ha
            _ ≤ v.length := Nat.le_of_lt hn.length_lt
            _ ≤ s.length := hs.length_le
            _ ≤ fuel := Nat.le_of_lt_succ hf
        split at h
        · cases h
        · rename_i es z hrest
          cases h
          obtain ⟨r, rfl, he⟩ := ih hrest hshort
          exact ⟨r, rfl, .entry hs hn ha he⟩

/-- An object is read exactly where its members are spelled up to its closing brace. -/
theorem readObject_eq_ok_iff {value : Reader α} {R : List Sym → α → List Sym → Prop}
    (hR : Reads value R) {s r : List Sym} {ms : Members α} :
    readObject value s = .ok (ms, r) ↔ ∃ es, Entries R true s es r ∧ ms = Members.ofList es := by
  constructor
  · intro h
    rw [readObject] at h
    split at h
    · cases h
    · rename_i es t he
      obtain ⟨u, rfl, hentries⟩ := entries_of_readEntries hR he (Nat.lt_succ_self _)
      split at h
      · cases h
      · rename_i v hclose
        cases h
        cases hclose
        exact ⟨es, hentries, rfl⟩
  · rintro ⟨es, h, rfl⟩
    rw [readObject, readEntries_of_entries hR h (Nat.lt_succ_self _)]
    rfl

theorem Entries.length_lt {R : List Sym → α → List Sym → Prop}
    (hR : ∀ {s a r}, R s a r → r.length < s.length) {first : Bool} {s r : List Sym}
    {ms : List (String × α)} (h : Entries R first s ms r) : r.length < s.length := by
  induction h with
  | close h => exact Mark.length_lt h
  | entry hs hn ha _ ih =>
    exact Nat.lt_of_lt_of_le (Nat.lt_trans ih (Nat.lt_trans (hR ha) hn.length_lt)) hs.length_le

/-! ### Values of any shape -/

theorem mapResult_eq_ok_iff {β : Type} {f : α → β} {x : Except Fault (α × List Sym)} {b : β}
    {r : List Sym} : mapResult f x = .ok (b, r) ↔ ∃ a, x = .ok (a, r) ∧ f a = b := by
  cases x with
  | error e =>
    constructor
    · intro h
      cases h
    · rintro ⟨a, h, -⟩
      cases h
  | ok p =>
    obtain ⟨a, t⟩ := p
    rw [mapResult, Except.ok.injEq, Prod.mk.injEq]
    constructor
    · rintro ⟨h, rfl⟩
      exact ⟨a, rfl, h⟩
    · rintro ⟨c, h, rfl⟩
      cases h
      exact ⟨rfl, rfl⟩

/-- A word that is read stands for one value. -/
theorem readWord_value_iff {β : Type} {cs : List Char} {s r : List Sym} {a b : β} :
    mapResult (fun _ => a) (readWord cs s) = .ok (b, r) ↔ s = Utf8.ofChars cs ++ r ∧ a = b := by
  rw [mapResult_eq_ok_iff]
  constructor
  · rintro ⟨⟨⟩, hw, hab⟩
    exact ⟨readWord_eq_ok_iff.mp hw, hab⟩
  · rintro ⟨hs, hab⟩
    exact ⟨(), readWord_eq_ok_iff.mpr hs, hab⟩

/-- The symbols that tell something about a value. -/
def Lead.Tells : Lead → Sym → Prop
  | .null, c => c = .char 'n'
  | .yes, c => c = .char 't'
  | .no, c => c = .char 'f'
  | .minus, c => c = .char '-'
  | .digit, c => ∃ d, c = .char d ∧ isDigit d = true
  | .quote, c => c = .char '"'
  | .bracket, c => c = .char '['
  | .brace, c => c = .char '{'
  | .other, _ => True

theorem Lead.tells_of (c : Sym) : (Lead.of c).Tells c := by
  cases c with
  | stray bytes => exact trivial
  | char c =>
    rw [Lead.of]
    split
    · rename_i h
      exact congrArg Sym.char h
    split
    · rename_i h
      exact congrArg Sym.char h
    split
    · rename_i h
      exact congrArg Sym.char h
    split
    · rename_i h
      exact congrArg Sym.char h
    split
    · rename_i h
      exact ⟨c, rfl, h⟩
    split
    · rename_i h
      exact congrArg Sym.char h
    split
    · rename_i h
      exact congrArg Sym.char h
    split
    · rename_i h
      exact congrArg Sym.char h
    · exact trivial

theorem Lead.of_digit {d : Char} (h : isDigit d = true) : Lead.of (.char d) = .digit := by
  have hne (c : Char) (hc : isDigit c = false) : d ≠ c := by
    rintro rfl
    rw [h] at hc
    cases hc
  rw [Lead.of, if_neg (hne 'n' (by decide)), if_neg (hne 't' (by decide)),
    if_neg (hne 'f' (by decide)), if_neg (hne '-' (by decide)), if_pos h]

theorem not_isBlank_of_lead {c : Sym} (h : Lead.of c ≠ .other) : ¬ IsBlank c := by
  rintro (rfl | rfl | rfl | rfl)
  all_goals exact h (by decide)

/-- A number begins with a minus sign or with a digit. -/
theorem Literal.Written.head {l : Literal} {s r : List Sym} (h : l.Written s r) :
    ∃ c t, s = c :: t ∧ (Lead.of c = .minus ∨ Lead.of c = .digit) := by
  rw [Literal.Written] at h
  split at h
  · obtain ⟨t, rfl, -⟩ := h
    exact ⟨_, t, rfl, .inl (by decide)⟩
  · obtain ⟨c, t, rfl, hc⟩ := h.head
    exact ⟨_, t, rfl, .inr (Lead.of_digit hc)⟩

/-- The first symbol of a number that may stand after blanks. -/
theorem Literal.Written.leads {l : Literal} {s t r : List Sym} (hb : Blanks s t)
    (h : l.Written t r) :
    ∃ c u, skipBlanks s = c :: u ∧ (Lead.of c = .minus ∨ Lead.of c = .digit) := by
  obtain ⟨c, u, rfl, hc⟩ := h.head
  refine ⟨c, u, (skipBlanks_eq_cons_iff (not_isBlank_of_lead ?_)).mpr hb, hc⟩
  rcases hc with hc | hc <;> simp [hc]

theorem Literal.Written.length_lt {l : Literal} {s r : List Sym} (h : l.Written s r) :
    r.length < s.length := by
  rw [Literal.Written] at h
  split at h
  · obtain ⟨t, rfl, ht⟩ := h
    exact Nat.lt_succ_of_lt ht.length_lt
  · exact h.length_lt

/-- A word begins with its first letter. -/
theorem skipBlanks_word {c : Char} (hc : ¬ IsBlank (.char c)) {cs : List Char} {s r : List Sym}
    (h : Blanks s (Utf8.ofChars (c :: cs) ++ r)) :
    skipBlanks s = .char c :: (Utf8.ofChars cs ++ r) :=
  (skipBlanks_eq_char_iff hc).mpr h

section Shape

variable {array object : List Sym → Reader Json}
  {A : List Sym → List Json → List Sym → Prop} {O : List Sym → Json → List Sym → Prop}

theorem shape_of_readShape
    (ha : ∀ {c s v r}, array (c :: s) s = .ok (v, r) → ∃ vs, A s vs r ∧ .array vs = v)
    (ho : ∀ {c s v r}, object (c :: s) s = .ok (v, r) → O s v r)
    {s r : List Sym} {v : Json} (h : readShape array object s = .ok (v, r)) : Shape A O s v r := by
  rw [readShape] at h
  split at h
  · cases h
  rename_i c t hs
  have hb : Blanks s (c :: t) := by
    rw [← hs]
    exact blanks_skipBlanks s
  have hc := Lead.tells_of c
  split at h
  all_goals
    rename_i hl
    rw [hl] at hc
  · obtain ⟨rfl, rfl⟩ := readWord_value_iff.mp h
    cases hc
    exact .null hb
  · obtain ⟨rfl, rfl⟩ := readWord_value_iff.mp h
    cases hc
    exact .yes hb
  · obtain ⟨rfl, rfl⟩ := readWord_value_iff.mp h
    cases hc
    exact .no hb
  · obtain ⟨n, hn, rfl⟩ := mapResult_eq_ok_iff.mp h
    obtain ⟨l, hneg, hu, hv⟩ := readNumber_eq_ok_iff.mp hn
    cases hc
    refine .number hb ?_ hv
    rw [Literal.Written, if_pos hneg]
    exact ⟨t, rfl, hu⟩
  · obtain ⟨n, hn, rfl⟩ := mapResult_eq_ok_iff.mp h
    obtain ⟨l, hneg, hu, hv⟩ := readNumber_eq_ok_iff.mp hn
    refine .number hb ?_ hv
    rw [Literal.Written, if_neg (Bool.eq_false_iff.mp hneg)]
    exact hu
  · obtain ⟨text, ht, rfl⟩ := mapResult_eq_ok_iff.mp h
    cases hc
    exact .string hb (readString_eq_ok_iff.mp ht)
  · cases hc
    obtain ⟨vs, hvs, rfl⟩ := ha h
    exact .array hb hvs
  · cases hc
    exact .object hb (ho h)
  · cases h

theorem Shape.readShape_eq
    (ha : ∀ {c s vs r}, A s vs r → array (c :: s) s = .ok (.array vs, r))
    (ho : ∀ {c s v r}, O s v r → object (c :: s) s = .ok (v, r))
    {s r : List Sym} {v : Json} (h : Shape A O s v r) : readShape array object s = .ok (v, r) := by
  cases h with
  | null h =>
    rw [readShape, skipBlanks_word (by decide) h]
    exact readWord_value_iff.mpr ⟨rfl, rfl⟩
  | yes h =>
    rw [readShape, skipBlanks_word (by decide) h]
    exact readWord_value_iff.mpr ⟨rfl, rfl⟩
  | no h =>
    rw [readShape, skipBlanks_word (by decide) h]
    exact readWord_value_iff.mpr ⟨rfl, rfl⟩
  | @number l n s t r h hl hn =>
    rw [Literal.Written] at hl
    split at hl
    · rename_i hneg
      obtain ⟨u, rfl, hu⟩ := hl
      rw [readShape, (skipBlanks_eq_char_iff (by decide)).mpr h]
      exact mapResult_eq_ok_iff.mpr ⟨n, readNumber_eq_ok_iff.mpr ⟨l, hneg, hu, hn⟩, rfl⟩
    · rename_i hneg
      obtain ⟨d, u, rfl, hd⟩ := hl.head
      have hlead := Lead.of_digit hd
      have hblank : ¬ IsBlank (.char d) := not_isBlank_of_lead (by rw [hlead]; decide)
      rw [readShape, (skipBlanks_eq_char_iff hblank).mpr h]
      dsimp only
      rw [hlead]
      exact mapResult_eq_ok_iff.mpr
        ⟨n, readNumber_eq_ok_iff.mpr ⟨l, Bool.eq_false_iff.mpr hneg, hl, hn⟩, rfl⟩
  | string h ht =>
    rw [readShape, (skipBlanks_eq_char_iff (by decide)).mpr h]
    exact mapResult_eq_ok_iff.mpr ⟨_, readString_eq_ok_iff.mpr ht, rfl⟩
  | array h hv =>
    rw [readShape, (skipBlanks_eq_char_iff (by decide)).mpr h]
    exact ha hv
  | object h hm =>
    rw [readShape, (skipBlanks_eq_char_iff (by decide)).mpr h]
    exact ho hm

/-- A value begins with a symbol that tells something about it. -/
theorem Shape.leads {s r : List Sym} {v : Json} (h : Shape A O s v r) :
    ∃ c t, skipBlanks s = c :: t ∧ Lead.of c ≠ .other := by
  cases h with
  | null h => exact ⟨_, _, skipBlanks_word (by decide) h, by decide⟩
  | yes h => exact ⟨_, _, skipBlanks_word (by decide) h, by decide⟩
  | no h => exact ⟨_, _, skipBlanks_word (by decide) h, by decide⟩
  | number h hl =>
    obtain ⟨c, t, hs, hc⟩ := hl.leads h
    refine ⟨c, t, hs, ?_⟩
    rcases hc with hc | hc <;> simp [hc]
  | string h => exact ⟨_, _, (skipBlanks_eq_char_iff (by decide)).mpr h, by decide⟩
  | array h => exact ⟨_, _, (skipBlanks_eq_char_iff (by decide)).mpr h, by decide⟩
  | object h => exact ⟨_, _, (skipBlanks_eq_char_iff (by decide)).mpr h, by decide⟩

theorem Shape.length_lt (ha : ∀ {s vs r}, A s vs r → r.length < s.length)
    (ho : ∀ {s v r}, O s v r → r.length < s.length) {s r : List Sym} {v : Json}
    (h : Shape A O s v r) : r.length < s.length := by
  have word {c : Char} {cs : List Char} {s r : List Sym}
      (h : Blanks s (Utf8.ofChars (c :: cs) ++ r)) : r.length < s.length := by
    have hle := h.length_le
    rw [List.length_append, Utf8.ofChars, List.length_map, List.length_cons] at hle
    omega
  cases h with
  | null h => exact word h
  | yes h => exact word h
  | no h => exact word h
  | number h hl => exact Nat.lt_of_lt_of_le hl.length_lt h.length_le
  | string h ht => exact Nat.lt_trans ht.length_lt h.length_lt
  | array h hv => exact Nat.lt_trans (ha hv) h.length_lt
  | object h hm => exact Nat.lt_trans (ho hm) h.length_lt

theorem readShape_skipBlanks (array object : List Sym → Reader Json) (s : List Sym) :
    readShape array object (skipBlanks s) = readShape array object s := by
  rw [readShape, readShape, skipBlanks_skipBlanks]

/-- A value is read exactly where it is spelled if that is so of what its containers hold. -/
theorem reads_readShape
    (ha : ∀ {c s v r}, array (c :: s) s = .ok (v, r) ↔ ∃ vs, A s vs r ∧ .array vs = v)
    (ho : ∀ {c s v r}, object (c :: s) s = .ok (v, r) ↔ O s v r)
    (hA : ∀ {s vs r}, A s vs r → r.length < s.length)
    (hO : ∀ {s v r}, O s v r → r.length < s.length) :
    Reads (readShape array object) (Shape A O) where
  iff := ⟨shape_of_readShape ha.mp ho.mp,
    Shape.readShape_eq (fun h => ha.mpr ⟨_, h, rfl⟩) ho.mpr⟩
  blanks := readShape_skipBlanks array object
  leads := Shape.leads
  shorter := Shape.length_lt hA hO

end Shape

/-! ### Whole texts -/

/-- A text holds one value where something is read of it and only blanks are left. -/
theorem readAll_eq_ok_iff {reader : Reader α} {s : List Sym} {a : α} :
    readAll reader s = .ok a ↔ ∃ r, reader s = .ok (a, r) ∧ Blanks r [] := by
  constructor
  · intro h
    rw [readAll] at h
    split at h
    · cases h
    · rename_i b r hr
      split at h
      · rename_i hs
        cases h
        exact ⟨r, hr, skipBlanks_eq_nil_iff.mp hs⟩
      · cases h
  · rintro ⟨r, hr, hb⟩
    rw [readAll, hr]
    dsimp only
    rw [skipBlanks_eq_nil_iff.mpr hb]

end Stagehand.Json
