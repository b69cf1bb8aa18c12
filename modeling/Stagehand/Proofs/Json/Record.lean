import Stagehand.Proofs.Json.Embedded
import Stagehand.Proofs.Json.Skipped

/-!
# Records against the grammar
A record is read from an object in any order of its members, or from an array of its leading
fields. What is read of it member by member or item by item is said here without bounds on the
steps and without the faults.
-/

namespace Stagehand.Json

variable {α σ : Type}

/-! ### Basic types -/

/-- The word for null, or a value that does not begin as that word does. -/
inductive Nullable (R : List Sym → α → List Sym → Prop) : List Sym → Option α → List Sym → Prop
  | null {s r : List Sym} (h : Blanks s (Utf8.ofChars ['n', 'u', 'l', 'l'] ++ r)) :
      Nullable R s none r
  | value {a : α} {s r : List Sym} (h : R s a r) (hn : ∀ t, ¬ Mark 'n' s t) :
      Nullable R s (some a) r

theorem reads_readText : Reads readText Text := reads_readStringAs "a string"

theorem readOption_eq_ok_iff {value : Reader α} {R : List Sym → α → List Sym → Prop}
    (hR : Reads value R) {s r : List Sym} {o : Option α} :
    readOption value s = .ok (o, r) ↔ Nullable R s o r := by
  have hvalue {c : Sym} {t : List Sym} (hs : skipBlanks s = c :: t) : value (c :: t) = value s := by
    rw [← hs, hR.blanks]
  constructor
  · intro h
    rw [readOption] at h
    split at h
    · rename_i c t hs
      split at h
      · rename_i hc
        subst hc
        obtain ⟨rfl, rfl⟩ := readWord_value_iff.mp h
        exact .null ((skipBlanks_eq_char_iff (by decide)).mp hs)
      · rename_i hc
        obtain ⟨a, ha, rfl⟩ := mapResult_eq_ok_iff.mp h
        rw [hvalue hs, hR.iff] at ha
        refine .value ha fun u hu => ?_
        rw [(skipBlanks_eq_char_iff (by decide)).mpr hu] at hs
        exact hc (List.cons.inj hs).1.symm
    · rename_i hs
      obtain ⟨a, ha, rfl⟩ := mapResult_eq_ok_iff.mp h
      obtain ⟨c, t, hc, -⟩ := hR.leads (hR.iff.mp ha)
      cases hc
  · intro h
    cases h with
    | null h =>
      rw [readOption, skipBlanks_word (by decide) h]
      dsimp only
      rw [if_pos rfl]
      exact readWord_value_iff.mpr ⟨rfl, rfl⟩
    | @value a _ _ h hn =>
      obtain ⟨c, t, hs, -⟩ := hR.leads h
      rw [readOption, hs]
      dsimp only
      rw [if_neg, hvalue hs, hR.iff.mpr h]
      · rfl
      · rintro rfl
        exact hn t ((skipBlanks_eq_char_iff (by decide)).mp hs)

theorem reads_readOption {value : Reader α} {R : List Sym → α → List Sym → Prop}
    (hR : Reads value R) : Reads (readOption value) (Nullable R) where
  iff := readOption_eq_ok_iff hR
  blanks s := by rw [readOption, readOption, skipBlanks_skipBlanks]
  leads := by
    intro s o r h
    cases h with
    | null h => exact ⟨_, _, skipBlanks_word (by decide) h, by decide⟩
    | value h => exact hR.leads h
  shorter := by
    intro s o r h
    cases h with
    | null h =>
      have hle := h.length_le
      rw [List.length_append] at hle
      exact Nat.lt_of_lt_of_le (Nat.lt_add_of_pos_left (by decide)) hle
    | value h => exact hR.shorter h

/-! ### Steady readers -/

/-- A reader that passes over blanks, begins as values do, and reads something. -/
structure Steady (reader : Reader α) : Prop where
  blanks (s : List Sym) : reader (skipBlanks s) = reader s
  leads {s : List Sym} {a : α} {r : List Sym} (h : reader s = .ok (a, r)) :
    ∃ c t, skipBlanks s = c :: t ∧ Lead.of c ≠ .other
  shorter {s : List Sym} {a : α} {r : List Sym} (h : reader s = .ok (a, r)) :
    r.length < s.length

theorem Reads.steady {reader : Reader α} {R : List Sym → α → List Sym → Prop}
    (hR : Reads reader R) : Steady reader where
  blanks := hR.blanks
  leads h := hR.leads (hR.iff.mp h)
  shorter h := hR.shorter (hR.iff.mp h)

theorem Steady.mapResult {β : Type} {reader : Reader α} (h : Steady reader) (f : α → β) :
    Steady fun s => mapResult f (reader s) where
  blanks s := by rw [h.blanks]
  leads hb := by
    obtain ⟨a, ha, -⟩ := mapResult_eq_ok_iff.mp hb
    exact h.leads ha
  shorter hb := by
    obtain ⟨a, ha, -⟩ := mapResult_eq_ok_iff.mp hb
    exact h.shorter ha

theorem closeArray_eq_ok_iff {s r : List Sym} : closeArray s = .ok r ↔ Mark ']' s r := by
  rw [← skipBlanks_eq_char_iff (by decide), closeArray]
  constructor
  · intro h
    split at h
    · cases h
    · rename_i c t hs
      split at h
      · rename_i hc
        cases h
        rw [hs, hc]
      · split at h
        · split at h
          · cases h
          · split at h <;> cases h
        · cases h
  · intro h
    rw [h]
    exact if_pos rfl

namespace Record

variable {f : Record σ α}

/-! ### Objects -/

/-- The members of a record's object, from what has been read of the record before them to what
has been read of it after them. -/
inductive Fields (f : Record σ α) :
    (first : Bool) → σ → List Sym → σ → List Sym → Prop
  | close {first : Bool} {st : σ} {s r : List Sym} (h : Mark '}' s r) : Fields f first st s st r
  | unknown {first : Bool} {name : String} {st st' : σ} {s t u v r : List Sym}
      (hs : Separator first s t) (hn : Name t name u) (hm : f.member st name = .unknown)
      (hv : Skipped .value u v) (h : Fields f false st v st' r) : Fields f first st s st' r
  | known {first : Bool} {name : String} {read : Reader σ} {st st₁ st' : σ}
      {s t u v r : List Sym} (hs : Separator first s t) (hn : Name t name u)
      (hm : f.member st name = .known read) (hv : read u = .ok (st₁, v))
      (h : Fields f false st₁ v st' r) : Fields f first st s st' r

/-- The readers of a record's members and items are steady. -/
structure IsSteady (f : Record σ α) : Prop where
  member {st : σ} {name : String} {read : Reader σ} (h : f.member st name = .known read) :
    Steady read
  items {item : σ → Reader σ} (h : item ∈ f.items) (st : σ) : Steady (item st)

theorem readFields_of_fields (hf : f.IsSteady) {first : Bool} {st st' : σ} {s r : List Sym}
    (h : Fields f first st s st' r) {fuel : Nat} (hl : s.length < fuel) :
    f.readFields fuel first st s = .ok (st', .char '}' :: r) := by
  induction h generalizing fuel with
  | close h =>
    obtain ⟨fuel, rfl⟩ := Nat.exists_eq_succ_of_ne_zero (Nat.ne_zero_of_lt hl)
    rw [readFields, nextName_close_iff.mpr ⟨_, rfl, h⟩]
  | @unknown first name st st' s t u v r hs hn hm hv _ ih =>
    obtain ⟨fuel, rfl⟩ := Nat.exists_eq_succ_of_ne_zero (Nat.ne_zero_of_lt hl)
    have hshort : v.length < fuel :=
      calc v.length < u.length := hv.length_lt
        _ ≤ t.length := Nat.le_of_lt hn.length_lt
        _ ≤ s.length := hs.length_le
        _ ≤ fuel := Nat.le_of_lt_succ hl
    obtain ⟨x, y, hq, hletters, hc⟩ := hn
    rw [readFields, nextName_more_iff.mpr ⟨t, hs, hq⟩]
    dsimp only
    rw [readString_eq_ok_iff.mpr hletters]
    dsimp only
    rw [hm]
    dsimp only
    rw [readColon_eq_ok_iff.mpr hc]
    dsimp only
    rw [skipValue_eq_ok_iff.mpr hv]
    exact ih hshort
  | @known first name read st st₁ st' s t u v r hs hn hm hv _ ih =>
    obtain ⟨fuel, rfl⟩ := Nat.exists_eq_succ_of_ne_zero (Nat.ne_zero_of_lt hl)
    have hshort : v.length < fuel :=
      calc v.length < u.length := (hf.member hm).shorter hv
        _ ≤ t.length := Nat.le_of_lt hn.length_lt
        _ ≤ s.length := hs.length_le
        _ ≤ fuel := Nat.le_of_lt_succ hl
    obtain ⟨x, y, hq, hletters, hc⟩ := hn
    rw [readFields, nextName_more_iff.mpr ⟨t, hs, hq⟩]
    dsimp only
    rw [readString_eq_ok_iff.mpr hletters]
    dsimp only
    rw [hm]
    dsimp only
    rw [readColon_eq_ok_iff.mpr hc]
    dsimp only
    rw [hv]
    exact ih hshort

theorem fields_of_readFields (hf : f.IsSteady) {fuel : Nat} {first : Bool} {st st' : σ}
    {s t : List Sym} (h : f.readFields fuel first st s = .ok (st', t)) (hl : s.length < fuel) :
    ∃ r, t = .char '}' :: r ∧ Fields f first st s st' r := by
  induction fuel generalizing first st s with
  | zero => exact absurd hl (Nat.not_lt_zero _)
  | succ fuel ih =>
    rw [readFields] at h
    split at h
    · cases h
    · rename_i u hnext
      cases h
      obtain ⟨r, ht, hm⟩ := nextName_close_iff.mp hnext
      exact ⟨r, ht, .close hm⟩
    rename_i u hnext
    obtain ⟨v, hs, hq⟩ := nextName_more_iff.mp hnext
    split at h
    · cases h
    rename_i name w hstring
    have hletters := readString_eq_ok_iff.mp hstring
    split at h
    · cases h
    · rename_i hm
      split at h
      · cases h
      rename_i x hc
      have hn : Name v name x := ⟨u, w, hq, hletters, readColon_eq_ok_iff.mp hc⟩
      split at h
      · cases h
      rename_i y hskip
      have hv := skipValue_eq_ok_iff.mp hskip
      have hshort : y.length < fuel :=
        calc y.length < x.length := hv.length_lt
          _ ≤ v.length := Nat.le_of_lt hn.length_lt
          _ ≤ s.length := hs.length_le
          _ ≤ fuel := Nat.le_of_lt_succ hl
      obtain ⟨r, rfl, hfields⟩ := ih h hshort
      exact ⟨r, rfl, .unknown hs hn hm hv hfields⟩
    · rename_i read hm
      split at h
      · cases h
      rename_i x hc
      have hn : Name v name x := ⟨u, w, hq, hletters, readColon_eq_ok_iff.mp hc⟩
      split at h
      · cases h
      rename_i st₁ y hv
      have hshort : y.length < fuel :=
        calc y.length < x.length := (hf.member hm).shorter hv
          _ ≤ v.length := Nat.le_of_lt hn.length_lt
          _ ≤ s.length := hs.length_le
          _ ≤ fuel := Nat.le_of_lt_succ hl
      obtain ⟨r, rfl, hfields⟩ := ih h hshort
      exact ⟨r, rfl, .known hs hn hm hv hfields⟩

/-! ### Arrays -/

/-- The items of a record's array up to its closing bracket, which may leave out the last ones. -/
inductive Positions :
    List (σ → Reader σ) → (first : Bool) → σ → List Sym → σ → List Sym → Prop
  | close {items : List (σ → Reader σ)} {first : Bool} {st : σ} {s r : List Sym}
      (h : Mark ']' s r) : Positions items first st s st r
  | item {item : σ → Reader σ} {items : List (σ → Reader σ)} {first : Bool} {st st₁ st' : σ}
      {s t u r : List Sym} (hs : Separator first s t) (hi : item st t = .ok (st₁, u))
      (h : Positions items false st₁ u st' r) : Positions (item :: items) first st s st' r

theorem readPositions_of_positions {items : List (σ → Reader σ)}
    (hi : ∀ item ∈ items, ∀ st, Steady (item st)) {first : Bool} {st st' : σ} {s r : List Sym}
    (h : Positions items first st s st' r) :
    ∃ t, readPositions items first st s = .ok (st', t) ∧ closeArray t = .ok r := by
  induction h with
  | @close items first st s r h =>
    cases items with
    | nil => exact ⟨s, rfl, closeArray_eq_ok_iff.mpr h⟩
    | cons item items =>
      refine ⟨.char ']' :: r, ?_, rfl⟩
      rw [readPositions, nextItem_close_iff.mpr ⟨r, rfl, h⟩]
  | @item item items first st st₁ st' s t u r hs hv _ ih =>
    obtain ⟨c, v, ht, hc⟩ := (hi item (.head _) st).leads hv
    have hnext : nextItem first s = .ok (true, skipBlanks t) := by
      refine nextItem_more_iff.mpr ⟨t, hs, rfl, c, v, ht, ?_⟩
      rintro rfl
      exact hc lead_close
    rw [readPositions, hnext]
    dsimp only
    rw [(hi item (.head _) st).blanks, hv]
    exact ih fun item h => hi item (.tail _ h)

theorem positions_of_readPositions {items : List (σ → Reader σ)}
    (hi : ∀ item ∈ items, ∀ st, Steady (item st)) {first : Bool} {st st' : σ}
    {s t r : List Sym} (h : readPositions items first st s = .ok (st', t))
    (hc : closeArray t = .ok r) : Positions items first st s st' r := by
  induction items generalizing first st s with
  | nil =>
    cases h
    exact .close (closeArray_eq_ok_iff.mp hc)
  | cons item items ih =>
    rw [readPositions] at h
    split at h
    · cases h
    · rename_i u hnext
      cases h
      obtain ⟨v, rfl, hm⟩ := nextItem_close_iff.mp hnext
      cases hc
      exact .close hm
    · rename_i u hnext
      obtain ⟨v, hs, rfl, -⟩ := nextItem_more_iff.mp hnext
      rw [(hi item (.head _) st).blanks] at h
      split at h
      · cases h
      · rename_i st₁ w hv
        exact .item hs hv (ih (fun item h => hi item (.tail _ h)) h)

/-! ### Records -/

/-- A record is read from the members of an object or from the items of an array. -/
theorem read_eq_ok_iff (hf : f.IsSteady) {s r : List Sym} {a : α} :
    f.read s = .ok (a, r) ↔
      (∃ t st, Mark '\x7b' s t ∧ Fields f true f.start t st r ∧ f.ofMembers st = .ok a) ∨
      ∃ t st, Mark '[' s t ∧ Positions f.items true f.start t st r ∧ f.ofItems st = .ok a := by
  have hi : ∀ item ∈ f.items, ∀ st, Steady (item st) := fun item h => hf.items h
  constructor
  · intro h
    rw [read] at h
    split at h
    · cases h
    rename_i c t hs
    have hb : Blanks s (c :: t) := by
      rw [← hs]
      exact blanks_skipBlanks s
    have hc := Lead.tells_of c
    split at h
    · rename_i hlead
      rw [hlead] at hc
      split at h
      · cases h
      rename_i st u hread
      split at h
      · cases h
      rename_i b hb'
      obtain ⟨v, rfl, hfields⟩ := fields_of_readFields hf hread (Nat.lt_succ_self _)
      cases h
      cases hc
      exact .inl ⟨t, st, hb, hfields, hb'⟩
    · rename_i hlead
      rw [hlead] at hc
      split at h
      · cases h
      rename_i st u hpositions
      split at h
      · cases h
      rename_i b hb'
      split at h
      · cases h
      rename_i v hclose
      cases h
      cases hc
      exact .inr ⟨t, st, hb, positions_of_readPositions hi hpositions hclose, hb'⟩
    · cases h
  · rintro (⟨t, st, ht, h, ha⟩ | ⟨t, st, ht, h, ha⟩)
    · rw [read, (skipBlanks_eq_char_iff (by decide)).mpr ht]
      dsimp only [Lead.of]
      rw [readFields_of_fields hf h (Nat.lt_succ_self _)]
      dsimp only
      rw [ha]
      rfl
    · obtain ⟨u, hu, hclose⟩ := readPositions_of_positions hi h
      rw [read, (skipBlanks_eq_char_iff (by decide)).mpr ht]
      dsimp only [Lead.of]
      rw [hu]
      dsimp only
      rw [ha]
      dsimp only
      rw [hclose]
      rfl

end Record

end Stagehand.Json
