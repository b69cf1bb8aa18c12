import Stagehand.Proofs.Json.Value

/-!
# Embedded texts against the grammar
An object whose first name is the one of embedded texts is read for the value of a text. A text that
is embedded is read as one that stands alone, with the same faults, and so a value is read exactly
where it is spelled.
-/

namespace Stagehand.Json

variable {α : Type}

/-! ### Embedded texts -/

theorem reads_readStringAs (expected : String) : Reads (readStringAs expected) Text where
  iff := by
    intro s text r
    constructor
    · intro h
      rw [readStringAs] at h
      split at h
      · cases h
      · rename_i c t hs
        split at h
        · rename_i hl
          have hc := Lead.tells_of c
          rw [hl] at hc
          cases hc
          exact ⟨t, (skipBlanks_eq_char_iff (by decide)).mp hs, readString_eq_ok_iff.mp h⟩
        · cases h
    · rintro ⟨t, hq, hl⟩
      rw [readStringAs, (skipBlanks_eq_char_iff (by decide)).mpr hq]
      exact readString_eq_ok_iff.mpr hl
  blanks s := by rw [readStringAs, readStringAs, skipBlanks_skipBlanks]
  leads := by
    rintro s text r ⟨t, hq, -⟩
    exact ⟨_, t, (skipBlanks_eq_char_iff (by decide)).mpr hq, by decide⟩
  shorter := by
    rintro s text r ⟨t, hq, hl⟩
    exact Nat.lt_trans hl.length_lt hq.length_lt

theorem closeObject_eq_ok_iff {s r : List Sym} : closeObject s = .ok r ↔ Mark '}' s r := by
  rw [← skipBlanks_eq_char_iff (by decide), closeObject]
  constructor
  · intro h
    split at h
    · cases h
    · rename_i c t hs
      split at h
      · rename_i hc
        cases h
        rw [hs, hc]
      · split at h <;> cases h
  · intro h
    rw [h]
    exact if_pos rfl

theorem embedded?_eq_some_iff {s r : List Sym} :
    embedded? s = some r ↔ ∃ t, Mark '"' s t ∧ Letters t embeddedName.toList r := by
  constructor
  · intro h
    rw [embedded?] at h
    split at h
    · rename_i t hnext
      obtain ⟨u, rfl, hq⟩ := nextName_more_iff.mp hnext
      split at h
      · rename_i name v hname
        split at h
        · rename_i he
          cases h
          subst he
          exact ⟨t, hq, readString_eq_ok_iff.mp hname⟩
        · cases h
      · cases h
    · cases h
  · rintro ⟨t, hq, hl⟩
    have hnext : nextName true s = .ok (true, t) := nextName_more_iff.mpr ⟨s, rfl, hq⟩
    rw [embedded?, hnext]
    dsimp only
    rw [readString_eq_ok_iff.mpr hl]
    exact if_pos rfl

/-- No text is embedded where the members of an object begin with another name or end. -/
theorem Entries.embedded?_eq_none_iff {R : List Sym → α → List Sym → Prop} {s r : List Sym}
    {es : List (String × α)} (h : Entries R true s es r) :
    embedded? s = none ↔ (Members.names es).head? ≠ some embeddedName := by
  cases h with
  | close h =>
    rw [embedded?, nextName_close_iff.mpr ⟨r, rfl, h⟩]
    exact ⟨fun _ => nofun, fun _ => rfl⟩
  | @entry _ name _ _ _ _ _ _ _ hs hn _ _ =>
    cases hs
    obtain ⟨t, u, hq, hl, -⟩ := hn
    have hnext : nextName true s = .ok (true, t) := nextName_more_iff.mpr ⟨s, rfl, hq⟩
    rw [embedded?, hnext]
    dsimp only
    rw [readString_eq_ok_iff.mpr hl]
    by_cases he : name = embeddedName <;> simp [Members.names, he]

theorem readEmbedded_eq_ok_iff {inner : String → Except ReadError Json} {s r : List Sym}
    {v : Json} :
    readEmbedded inner s = .ok (v, r) ↔
      ∃ t text u, Mark ':' s t ∧ Text t text u ∧ inner text = .ok v ∧ Mark '}' u r := by
  constructor
  · intro h
    rw [readEmbedded] at h
    split at h
    · cases h
    rename_i t hc
    split at h
    · cases h
    rename_i text u ht
    split at h
    · cases h
    rename_i w hw
    split at h
    · cases h
    rename_i x hm
    cases h
    exact ⟨t, text, u, readColon_eq_ok_iff.mp hc, (reads_readStringAs _).iff.mp ht, hw,
      closeObject_eq_ok_iff.mp hm⟩
  · rintro ⟨t, text, u, hc, ht, hv, hm⟩
    simp only [readEmbedded, readColon_eq_ok_iff.mpr hc, (reads_readStringAs _).iff.mpr ht, hv,
      closeObject_eq_ok_iff.mpr hm]

section Braces

variable {inner : String → Except ReadError Json} {Embedded : String → Json → Prop}
  {value : Reader Json} {R : List Sym → Json → List Sym → Prop}

theorem readBraces_eq_ok_iff (hE : ∀ {text v}, inner text = .ok v ↔ Embedded text v)
    (hR : Reads value R) {s r : List Sym} {v : Json} :
    readBraces inner value s = .ok (v, r) ↔ Braces R Embedded s v r := by
  constructor
  · intro h
    rw [readBraces] at h
    split at h
    · rename_i t hs
      obtain ⟨u, hq, hl⟩ := embedded?_eq_some_iff.mp hs
      obtain ⟨w, text, x, hc, ht, hv, hm⟩ := readEmbedded_eq_ok_iff.mp h
      exact .embedded ⟨u, t, hq, hl, hc⟩ ht (hE.mp hv) hm
    · rename_i hs
      obtain ⟨ms, hms, rfl⟩ := mapResult_eq_ok_iff.mp h
      obtain ⟨es, hes, rfl⟩ := (readObject_eq_ok_iff hR).mp hms
      exact .members hes (hes.embedded?_eq_none_iff.mp hs)
  · intro h
    cases h with
    | members h hn =>
      rw [readBraces, h.embedded?_eq_none_iff.mpr hn]
      exact mapResult_eq_ok_iff.mpr ⟨_, (readObject_eq_ok_iff hR).mpr ⟨_, h, rfl⟩, rfl⟩
    | embedded hn ht hv hm =>
      obtain ⟨t, u, hq, hl, hc⟩ := hn
      rw [readBraces, embedded?_eq_some_iff.mpr ⟨t, hq, hl⟩]
      exact readEmbedded_eq_ok_iff.mpr ⟨_, _, _, hc, ht, hE.mpr hv, hm⟩

theorem Braces.length_lt (hR : ∀ {s v r}, R s v r → r.length < s.length) {s r : List Sym}
    {v : Json} (h : Braces R Embedded s v r) : r.length < s.length := by
  cases h with
  | members h _ => exact h.length_lt hR
  | embedded hn ht _ hm =>
    obtain ⟨t, hq, hl⟩ := ht
    exact Nat.lt_trans hm.length_lt
      (Nat.lt_trans hl.length_lt (Nat.lt_trans hq.length_lt hn.length_lt))

end Braces

/-! ### Values with embedded texts -/

/-- A value is read exactly where it is spelled, with the same limit on its nesting, if embedded
texts are read for the values that they hold. -/
theorem reads_readValueWith {inner : String → Except ReadError Json}
    {Embedded : String → Json → Prop}
    (hE : ∀ {text v}, inner text = .ok v ↔ Embedded text v) (depth : Nat) :
    Reads (readValueWith inner depth) (SpellsWith Embedded depth) := by
  induction depth with
  | zero =>
    refine reads_readShape ?_ ?_ False.elim False.elim
    · intro c s v r
      exact ⟨nofun, fun ⟨vs, hvs, _⟩ => hvs.elim⟩
    · intro c s v r
      exact ⟨nofun, False.elim⟩
  | succ depth ih =>
    refine reads_readShape ?_ (readBraces_eq_ok_iff hE ih) ?_ ?_
    · intro c s v r
      rw [mapResult_eq_ok_iff]
      simp only [readArray_eq_ok_iff ih]
    · intro s vs r h
      exact h.length_lt ih.shorter
    · intro s v r h
      exact h.length_lt ih.shorter

/-! ### Texts within texts -/

/-- Two readers that agree on what has no more than `n` symbols. -/
structure Agree (n : Nat) (reader other : Reader α) : Prop where
  eq {s : List Sym} (h : s.length ≤ n) : reader s = other s
  le {s : List Sym} {a : α} {r : List Sym} (h : other s = .ok (a, r)) : r.length ≤ s.length

theorem nextItem_length_le {first : Bool} {s r : List Sym} (h : nextItem first s = .ok (true, r)) :
    r.length ≤ s.length := by
  obtain ⟨t, ht, rfl, -⟩ := nextItem_more_iff.mp h
  exact Nat.le_trans (blanks_skipBlanks t).length_le ht.length_le

theorem nextName_length_le {first : Bool} {s r : List Sym} (h : nextName first s = .ok (true, r)) :
    r.length ≤ s.length := by
  obtain ⟨t, ht, hq⟩ := nextName_more_iff.mp h
  exact Nat.le_trans (Nat.le_of_lt hq.length_lt) ht.length_le

namespace Agree

variable {n : Nat} {reader other : Reader α} {s : List Sym}

theorem readItems_eq (h : Agree n reader other) {fuel : Nat} {first : Bool} (hs : s.length ≤ n) :
    readItems reader fuel first s = readItems other fuel first s := by
  induction fuel generalizing first s with
  | zero => rfl
  | succ fuel ih =>
    rw [readItems, readItems]
    rcases hnext : nextItem first s with e | ⟨_ | _, r⟩
    · rfl
    · rfl
    · have hr : r.length ≤ n := Nat.le_trans (nextItem_length_le hnext) hs
      dsimp only
      rw [h.eq hr]
      rcases ha : other r with e | ⟨a, t⟩
      · rfl
      · dsimp only
        rw [ih (Nat.le_trans (h.le ha) hr)]

theorem readArray_eq (h : Agree n reader other) (hs : s.length ≤ n) :
    readArray reader s = readArray other s := by
  rw [readArray, readArray, h.readItems_eq hs]

theorem readMember (h : Agree n reader other) :
    Agree n (readMember reader) (Json.readMember other) where
  eq {s} hs := by
    rw [Json.readMember, Json.readMember]
    rcases hn : readString s with e | ⟨name, t⟩
    · rfl
    dsimp only
    rcases hc : readColon t with e | u
    · rfl
    have htu := (readColon_eq_ok_iff.mp hc).length_lt
    have hst := (readString_eq_ok_iff.mp hn).length_lt
    dsimp only
    rw [h.eq (by omega)]
  le {s m r} hm := by
    rw [Json.readMember] at hm
    split at hm
    · cases hm
    rename_i name t hn
    split at hm
    · cases hm
    rename_i u hc
    split at hm
    · cases hm
    rename_i a v ha
    cases hm
    have hst := (readString_eq_ok_iff.mp hn).length_lt
    have htu := (readColon_eq_ok_iff.mp hc).length_lt
    have huv := h.le ha
    omega

theorem readEntries_eq (h : Agree n reader other) {fuel : Nat} {first : Bool}
    (hs : s.length ≤ n) : readEntries reader fuel first s = readEntries other fuel first s := by
  induction fuel generalizing first s with
  | zero => rfl
  | succ fuel ih =>
    rw [readEntries, readEntries]
    rcases hnext : nextName first s with e | ⟨_ | _, r⟩
    · rfl
    · rfl
    · have hr : r.length ≤ n := Nat.le_trans (nextName_length_le hnext) hs
      dsimp only
      rw [h.readMember.eq hr]
      rcases hm : Json.readMember other r with e | ⟨m, t⟩
      · rfl
      · dsimp only
        rw [ih (Nat.le_trans (h.readMember.le hm) hr)]

theorem readObject_eq (h : Agree n reader other) (hs : s.length ≤ n) :
    readObject reader s = readObject other s := by
  rw [readObject, readObject, h.readEntries_eq hs]

end Agree

section Texts

variable {inner other : String → Except ReadError Json} {n : Nat}

theorem readEmbedded_congr (h : ∀ text : String, text.length < n → inner text = other text)
    {s : List Sym} (hs : s.length ≤ n) : readEmbedded inner s = readEmbedded other s := by
  rw [readEmbedded, readEmbedded]
  rcases hc : readColon s with e | t
  · rfl
  dsimp only
  rcases ht : readStringAs "raw value" t with e | ⟨text, u⟩
  · rfl
  have hst := (readColon_eq_ok_iff.mp hc).length_lt
  obtain ⟨v, hq, hl⟩ := (reads_readStringAs _).iff.mp ht
  have htv := hq.length_lt
  have hlen : text.length < v.length := hl.length_chars_lt
  dsimp only
  rw [h text (by omega)]

theorem readBraces_congr (h : ∀ text : String, text.length < n → inner text = other text)
    {value value' : Reader Json} (hv : Agree n value value') {s : List Sym} (hs : s.length ≤ n) :
    readBraces inner value s = readBraces other value' s := by
  rw [readBraces, readBraces]
  cases he : embedded? s with
  | none =>
    dsimp only
    rw [hv.readObject_eq hs]
  | some r =>
    obtain ⟨t, hq, hl⟩ := embedded?_eq_some_iff.mp he
    have hst := hq.length_lt
    have htr := hl.length_lt
    exact readEmbedded_congr h (by omega)

theorem readShape_congr {array array' object object' : List Sym → Reader Json} {s : List Sym}
    (ha : ∀ c r, r.length ≤ s.length → array (c :: r) r = array' (c :: r) r)
    (ho : ∀ c r, r.length ≤ s.length → object (c :: r) r = object' (c :: r) r) :
    readShape array object s = readShape array' object' s := by
  rw [readShape, readShape]
  cases hs : skipBlanks s with
  | nil => rfl
  | cons c r =>
    have hle : (c :: r).length ≤ s.length := by
      rw [← hs]
      exact (blanks_skipBlanks s).length_le
    dsimp only
    rw [ha c r (Nat.le_of_succ_le hle), ho c r (Nat.le_of_succ_le hle)]

theorem readValueWith_length_lt {depth : Nat} {s r : List Sym} {v : Json}
    (h : readValueWith inner depth s = .ok (v, r)) : r.length < s.length := by
  have hR : Reads (readValueWith inner depth) (SpellsWith (inner · = .ok ·) depth) :=
    reads_readValueWith Iff.rfl depth
  exact hR.shorter (hR.iff.mp h)

/-- Only the texts that fit into what is read matter. -/
theorem agree_readValueWith (h : ∀ text : String, text.length < n → inner text = other text)
    (depth : Nat) : Agree n (readValueWith inner depth) (readValueWith other depth) where
  eq {s} hs := by
    induction depth generalizing s with
    | zero => rfl
    | succ depth ih =>
      have hagree : Agree n (readValueWith inner depth) (readValueWith other depth) :=
        ⟨ih, fun h => Nat.le_of_lt (readValueWith_length_lt h)⟩
      rw [readValueWith, readValueWith]
      refine readShape_congr (fun c r hr => ?_) fun c r hr => ?_
      · rw [hagree.readArray_eq (Nat.le_trans hr hs)]
      · exact readBraces_congr h hagree (Nat.le_trans hr hs)
  le h := Nat.le_of_lt (readValueWith_length_lt h)

theorem read_readValueWith_congr {text : String}
    (h : ∀ t : String, t.length < text.length → inner t = other t) (depth : Nat) :
    read (readValueWith inner depth) text = read (readValueWith other depth) text := by
  have hlen : (Utf8.ofString text).length = text.length := by
    rw [Utf8.ofString, Utf8.ofChars, List.length_map, String.length_toList]
  rw [read, read, readAll, readAll, (agree_readValueWith h depth).eq (Nat.le_of_eq hlen)]

end Texts

/-- How deep texts may be embedded does not matter where it is more than the length of the text. -/
theorem readNested_eq {n m : Nat} {text : String} (hn : text.length < n) (hm : text.length < m) :
    readNested n text = readNested m text := by
  induction n generalizing m text with
  | zero => exact absurd hn (Nat.not_lt_zero _)
  | succ n ih =>
    obtain ⟨m, rfl⟩ := Nat.exists_eq_succ_of_ne_zero (Nat.ne_zero_of_lt hm)
    exact read_readValueWith_congr (fun t ht => ih (by omega) (by omega)) maxDepth

/-- An embedded text is read as one that stands alone. -/
theorem readInner_eq_parse (text : String) : readInner text = parse text :=
  read_readValueWith_congr (fun _ ht => readNested_eq ht (Nat.lt_succ_self _)) maxDepth

/-! ### Values as they are spelled -/

theorem Items.imp {R R' : List Sym → α → List Sym → Prop} (hR : ∀ {s a r}, R s a r → R' s a r)
    {first : Bool} {s r : List Sym} {as : List α} (h : Items R first s as r) :
    Items R' first s as r := by
  induction h with
  | close h => exact .close h
  | item hs ha _ ih => exact .item hs (hR ha) ih

theorem Entries.imp {R R' : List Sym → α → List Sym → Prop} (hR : ∀ {s a r}, R s a r → R' s a r)
    {first : Bool} {s r : List Sym} {es : List (String × α)} (h : Entries R first s es r) :
    Entries R' first s es r := by
  induction h with
  | close h => exact .close h
  | entry hs hn ha _ ih => exact .entry hs hn (hR ha) ih

theorem Shape.imp {A A' : List Sym → List Json → List Sym → Prop}
    {O O' : List Sym → Json → List Sym → Prop} (hA : ∀ {s vs r}, A s vs r → A' s vs r)
    (hO : ∀ {s v r}, O s v r → O' s v r) {s r : List Sym} {v : Json} (h : Shape A O s v r) :
    Shape A' O' s v r := by
  cases h with
  | null h => exact .null h
  | yes h => exact .yes h
  | no h => exact .no h
  | number h hl hn => exact .number h hl hn
  | string h ht => exact .string h ht
  | array h hv => exact .array h (hA hv)
  | object h hv => exact .object h (hO hv)

theorem SpellsWith.imp {E E' : String → Json → Prop} (hE : ∀ {text v}, E text v → E' text v)
    {depth : Nat} {s r : List Sym} {v : Json} (h : SpellsWith E depth s v r) :
    SpellsWith E' depth s v r := by
  induction depth generalizing s v r with
  | zero => exact h
  | succ depth ih =>
    refine Shape.imp (fun h => h.imp ih) (fun h => ?_) h
    cases h with
    | members h hn => exact .members (h.imp ih) hn
    | embedded hn ht hv hm => exact .embedded hn ht (hE hv) hm

theorem HoldsWithin.mono {n m : Nat} {text : String} {v : Json} (h : HoldsWithin n text v)
    (hnm : n ≤ m) : HoldsWithin m text v := by
  induction n generalizing m text v with
  | zero => exact h.elim
  | succ n ih =>
    obtain ⟨m, rfl⟩ := Nat.exists_eq_succ_of_ne_zero (Nat.ne_zero_of_lt hnm)
    obtain ⟨r, hr, hb⟩ := h
    exact ⟨r, hr.imp fun h => ih h (Nat.le_of_succ_le_succ hnm), hb⟩

theorem readNested_eq_ok_iff {n : Nat} {text : String} {v : Json} :
    readNested n text = .ok v ↔ HoldsWithin n text v := by
  induction n generalizing text v with
  | zero => exact ⟨nofun, False.elim⟩
  | succ n ih =>
    rw [readNested, read, readAll_eq_ok_iff]
    simp only [(reads_readValueWith ih maxDepth).iff]
    exact Iff.rfl

theorem readInner_eq_ok_iff {text : String} {v : Json} : readInner text = .ok v ↔ Holds text v := by
  constructor
  · intro h
    exact ⟨_, readNested_eq_ok_iff.mp h⟩
  · rintro ⟨n, h⟩
    have hmono := readNested_eq_ok_iff.mpr (h.mono (Nat.le_max_left n (text.length + 1)))
    rw [readInner, ← hmono]
    exact readNested_eq (Nat.lt_succ_self _) (Nat.le_max_right _ _)

/-- A value is read exactly where it is spelled, with the same limit on its nesting. -/
theorem reads_readValue (depth : Nat) : Reads (readValue depth) (Spells depth) :=
  reads_readValueWith readInner_eq_ok_iff depth

/-- A text is read exactly where it holds a value. -/
theorem parse_eq_ok_iff {text : String} {v : Json} : parse text = .ok v ↔ Holds text v := by
  rw [← readInner_eq_parse, readInner_eq_ok_iff]

theorem read_eq_ok_iff {depth : Nat} {text : String} {v : Json} :
    read (readValue depth) text = .ok v ↔
      ∃ r, Spells depth (Utf8.ofString text) v r ∧ Blanks r [] := by
  rw [read, readAll_eq_ok_iff]
  simp only [(reads_readValue depth).iff]

/-- A text holds the value that it spells, with blanks around it. -/
theorem holds_iff {text : String} {v : Json} :
    Holds text v ↔ ∃ r, Spells maxDepth (Utf8.ofString text) v r ∧ Blanks r [] := by
  rw [← parse_eq_ok_iff, parse, read_eq_ok_iff]

/-- Of what is spelled there is one value, and one rest is left. -/
theorem Spells.unique {depth : Nat} {s r r' : List Sym} {v v' : Json} (h : Spells depth s v r)
    (h' : Spells depth s v' r') : v = v' ∧ r = r' := by
  have hr := (reads_readValue depth).iff.mpr h
  rw [(reads_readValue depth).iff.mpr h', Except.ok.injEq, Prod.mk.injEq] at hr
  exact ⟨hr.1.symm, hr.2.symm⟩

end Stagehand.Json
