import Stagehand.Proofs.Json.Members
import Stagehand.Proofs.Json.Embedded
import Stagehand.Proofs.Text.Numeral
import Stagehand.Proofs.Text.Utf8

/-!
# Texts are read as they are written
The text of a value spells that value, if it holds integers of 64 bits and no other numbers, if the
members of its objects are in their order, and if no object begins with the name of embedded texts.
What follows the text may be anything that does not go on with a number.
-/

namespace Stagehand.Json

variable {α : Type}

/-! ### Strings -/

/-- The hexadecimal digits of a number below sixteen are read as that number. -/
theorem digitIn?_hexChar {n : Nat} (h : n < 16) : digitIn? 16 (hexChar n) = some n := by
  have hall : ∀ m : Fin 16, digitIn? 16 (hexChar m) = some m.val := by decide
  exact hall ⟨n, h⟩

/-- A character is spelled in a string as it is written there. -/
theorem letters_stringChar (c : Char) {s r : List Sym} {cs : List Char} (h : Letters s cs r) :
    Letters (Utf8.ofChars (stringChar c) ++ s) (c :: cs) r := by
  rw [stringChar]
  -- the characters with a short escape come first
  iterate 7
    split
    · rename_i hc
      subst hc
      exact .escape (.short (by decide)) h
  rename_i hq hb _ _ _ _ _
  split
  · rename_i hc
    have hlt : c.toNat < 32 := hc
    have hzero : digitIn? 16 '0' = some 0 := by decide
    have hunit := HexUnit.digits (r := s) hzero hzero
      (digitIn?_hexChar (n := c.toNat / 16) (by omega))
      (digitIn?_hexChar (n := c.toNat % 16) (by omega))
    have hn : ((0 * 16 + 0) * 16 + c.toNat / 16) * 16 + c.toNat % 16 = c.toNat := by omega
    rw [hn] at hunit
    have hescape := Escape.unit hunit (decide_eq_false (by omega)) (decide_eq_false (by omega))
    rw [Char.ofNat_toNat] at hescape
    exact .escape hescape h
  · rename_i hc
    exact .plain ⟨hq, hb, hc⟩ h

/-- A string is spelled by its characters as they are written. -/
theorem letters_stringChars (cs : List Char) (r : List Sym) :
    Letters (Utf8.ofChars (cs.flatMap stringChar ++ ['"']) ++ r) cs r := by
  induction cs with
  | nil => exact .close r
  | cons c cs ih =>
    rw [List.flatMap_cons, List.append_assoc, Utf8.ofChars, List.map_append, List.append_assoc]
    exact letters_stringChar c ih

/-! ### Numbers -/

/-- What cannot go on with a number. -/
def Ends (r : List Sym) : Prop :=
  Stops (fun c => isDigit c = true ∨ c = '.' ∨ c = 'e' ∨ c = 'E') r

theorem ends_nil : Ends [] := by
  intro c t h
  cases h

theorem Ends.digits {r : List Sym} (h : Ends r) (n : Nat) :
    Digits (Utf8.ofChars (Numeral.ofNat n) ++ r) (Numeral.ofNat n) r :=
  ⟨rfl, fun _ => Numeral.isDigit_of_mem_ofNat, fun c t hr hc => h c t hr (.inl hc)⟩

theorem keepWhole_of_le {n : Nat} {ds : List Char} (h : Numeral.valueFrom n ds ≤ maxUnsigned64) :
    keepWhole n ds = (Numeral.valueFrom n ds, 0) := by
  induction ds generalizing n with
  | nil => rfl
  | cons c ds ih =>
    have hfits : fitsDigit n c = true :=
      decide_eq_true (Nat.le_trans (le_valueFrom (10 * n + digitValue c) ds) h)
    rw [keepWhole, if_pos hfits, ih h]
    rfl

/-- The numeral of a number as a number without a fraction or an exponent. -/
def plainLiteral (negative : Bool) (n : Nat) : Literal where
  negative := negative
  whole := Numeral.ofNat n

theorem unsigned_plainLiteral {r : List Sym} (h : Ends r) (negative : Bool) (n : Nat) :
    (plainLiteral negative n).Unsigned (Utf8.ofChars (Numeral.ofNat n) ++ r) r := by
  refine ⟨r, r, h.digits n, ?_, .absent ?_, .absent ?_⟩
  · by_cases hn : n = 0
    · subst hn
      exact .inl (Nat.toDigits_zero 10)
    · exact .inr (Numeral.head_ofNat hn)
  · intro c t hr hc
    exact h c t hr (.inr (.inl hc))
  · intro c t hr hc
    exact h c t hr (.inr (.inr hc))

theorem value?_plainLiteral (negative : Bool) {n : Nat} (h : n ≤ maxUnsigned64) :
    (plainLiteral negative n).value? = some (wholeNumber negative n) := by
  have hk : keepWhole 0 (Numeral.ofNat n) = (n, 0) := by
    have hv : Numeral.valueFrom 0 (Numeral.ofNat n) = n := Numeral.value_ofNat n
    rw [keepWhole_of_le (by rwa [hv]), hv]
  rw [plainLiteral, Literal.value?, hk]
  rfl

/-- Whether an integer is one of 64 bits, with or without a sign. -/
def IsInteger64 (n : Int) : Prop := -0x8000000000000000 ≤ n ∧ n ≤ 0xffffffffffffffff

/-- An integer of 64 bits is spelled by its numeral. -/
theorem written_ofInt {n : Int} (hn : IsInteger64 n) {r : List Sym} (h : Ends r) :
    ∃ l : Literal, l.Written (Utf8.ofChars (Numeral.ofInt n) ++ r) r ∧
      l.value? = some (.integer n) := by
  obtain ⟨hlo, hhi⟩ := hn
  cases n with
  | ofNat n =>
    refine ⟨plainLiteral false n, unsigned_plainLiteral h false n, ?_⟩
    have hle : n ≤ maxUnsigned64 := by
      replace hhi : (n : Int) ≤ 0xffffffffffffffff := hhi
      rw [maxUnsigned64]
      omega
    exact value?_plainLiteral false hle
  | negSucc n =>
    refine ⟨plainLiteral true (n + 1), ⟨_, rfl, unsigned_plainLiteral h true (n + 1)⟩, ?_⟩
    have hle : n + 1 ≤ maxUnsigned64 := by
      rw [maxUnsigned64]
      omega
    rw [value?_plainLiteral true hle, wholeNumber, if_neg (by decide), if_pos]
    · rfl
    · omega

/-! ### Values -/

/-- A value with containers nested at most `depth` deep, without any other numbers than integers of
64 bits, and with the members of its objects in their order. -/
inductive Exact : (depth : Nat) → Json → Prop
  | null {depth : Nat} : Exact depth .null
  | bool {depth : Nat} {b : Bool} : Exact depth (.bool b)
  | integer {depth : Nat} {n : Int} (h : IsInteger64 n) : Exact depth (.number (.integer n))
  | string {depth : Nat} {text : String} : Exact depth (.string text)
  | array {depth : Nat} {vs : List Json} (h : ∀ v ∈ vs, Exact depth v) :
      Exact (depth + 1) (.array vs)
  | object {depth : Nat} {ms : List (String × Json)} (ho : Members.Ordered ms)
      (h : ∀ m ∈ ms, Exact depth m.2) : Exact (depth + 1) (.object ms)

/-- A value in which no object begins with the name of embedded texts. -/
inductive Plain : Json → Prop
  | null : Plain .null
  | bool {b : Bool} : Plain (.bool b)
  | number {n : Number} : Plain (.number n)
  | string {text : String} : Plain (.string text)
  | array {vs : List Json} (h : ∀ v ∈ vs, Plain v) : Plain (.array vs)
  | object {ms : List (String × Json)} (hn : (Members.names ms).head? ≠ some embeddedName)
      (h : ∀ m ∈ ms, Plain m.2) : Plain (.object ms)

theorem ofChars_append (as bs : List Char) (r : List Sym) :
    Utf8.ofChars (as ++ bs) ++ r = Utf8.ofChars as ++ (Utf8.ofChars bs ++ r) := by
  rw [Utf8.ofChars_append, List.append_assoc]

theorem ofChars_cons (c : Char) (cs : List Char) (r : List Sym) :
    Utf8.ofChars (c :: cs) ++ r = .char c :: (Utf8.ofChars cs ++ r) :=
  rfl

theorem ends_cons {c : Char} (h : ¬ (isDigit c = true ∨ c = '.' ∨ c = 'e' ∨ c = 'E'))
    (r : List Sym) : Ends (.char c :: r) := by
  intro d t hr
  cases hr
  exact h

theorem ends_itemsChars (vs : List Json) (r : List Sym) :
    Ends (Utf8.ofChars (itemsChars vs) ++ r) := by
  cases vs with
  | nil => exact ends_cons (by decide) r
  | cons v vs => exact ends_cons (by decide) _

theorem ends_membersChars (ms : List (String × Json)) (r : List Sym) :
    Ends (Utf8.ofChars (membersChars ms) ++ r) := by
  cases ms with
  | nil => exact ends_cons (by decide) r
  | cons m ms => exact ends_cons (by decide) _

theorem spells_of_shape {depth : Nat} {s r : List Sym} {v : Json}
    (h : ∀ {A O}, Shape A O s v r) : Spells depth s v r := by
  cases depth with
  | zero => exact h
  | succ depth => exact h

/-- A value whose text spells it, whatever comes after the text. -/
def Reproduced (depth : Nat) (v : Json) : Prop :=
  ∀ r, Ends r → Spells depth (Utf8.ofChars v.chars ++ r) v r

theorem items_itemsChars {depth : Nat} {vs : List Json} (h : ∀ v ∈ vs, Reproduced depth v)
    (r : List Sym) : Items (Spells depth) false (Utf8.ofChars (itemsChars vs) ++ r) vs r := by
  induction vs with
  | nil => exact .close (.none _)
  | cons v vs ih =>
    rw [itemsChars, List.cons_append, ofChars_cons, ofChars_append]
    exact .item (.none _) (h v (.head _) _ (ends_itemsChars vs r)) (ih fun v hv => h v (.tail _ hv))

/-- The name of a member is spelled by its string and the colon after it. -/
theorem name_stringChars (name : String) (cs : List Char) (r : List Sym) :
    Name (Utf8.ofChars (stringChars name ++ ':' :: cs) ++ r) name (Utf8.ofChars cs ++ r) := by
  rw [ofChars_append, stringChars]
  exact ⟨_, _, .none _, letters_stringChars name.toList _, .none _⟩

/-- The text of a member, from what leads it in to the members after it. -/
theorem ofChars_member (c : Char) (name : String) (cs ds : List Char) (r : List Sym) :
    Utf8.ofChars (c :: stringChars name ++ ':' :: cs ++ ds) ++ r =
      .char c :: (Utf8.ofChars (stringChars name ++ ':' :: (cs ++ ds)) ++ r) := by
  rw [List.cons_append, List.cons_append, ofChars_cons, List.append_assoc, List.cons_append]

theorem entries_membersChars {depth : Nat} {ms : List (String × Json)}
    (h : ∀ m ∈ ms, Reproduced depth m.2) (r : List Sym) :
    Entries (Spells depth) false (Utf8.ofChars (membersChars ms) ++ r) ms r := by
  induction ms with
  | nil => exact .close (.none _)
  | cons m ms ih =>
    obtain ⟨name, v⟩ := m
    have hv := h (name, v) (.head _) _ (ends_membersChars ms r)
    rw [← ofChars_append] at hv
    rw [membersChars, ofChars_member]
    exact .entry (.none _) (name_stringChars name _ r) hv (ih fun m hm => h m (.tail _ hm))

/-- The text of a value spells it. -/
theorem Exact.reproduced {depth : Nat} {v : Json} (h : Exact depth v) (hp : Plain v) :
    Reproduced depth v := by
  induction h with
  | null =>
    intro r _
    exact spells_of_shape (.null (.none _))
  | @bool depth b =>
    intro r _
    cases b with
    | true => exact spells_of_shape (.yes (.none _))
    | false => exact spells_of_shape (.no (.none _))
  | integer hn =>
    intro r hr
    obtain ⟨l, hl, hv⟩ := written_ofInt hn hr
    exact spells_of_shape (.number (.none _) hl hv)
  | @string depth text =>
    intro r _
    exact spells_of_shape (.string (.none _) (letters_stringChars text.toList r))
  | @array depth vs _ ih =>
    intro r _
    cases hp with | array hp =>
    cases vs with
    | nil => exact .array (.none _) (.close (.none _))
    | cons v vs =>
      have hv := ih v (.head _) (hp v (.head _)) _ (ends_itemsChars vs r)
      have hvs := items_itemsChars (fun v hv => ih v (.tail _ hv) (hp v (.tail _ hv))) r
      rw [chars, List.cons_append, ofChars_cons, ofChars_append]
      exact .array (.none _) (.item rfl hv hvs)
  | @object depth ms ho _ ih =>
    intro r _
    cases hp with | object hn hp =>
    cases ms with
    | nil =>
      have hb : Braces (Spells depth) Holds _ (.object (Members.ofList [])) r :=
        .members (.close (.none _)) hn
      exact .object (.none _) hb
    | cons m ms =>
      obtain ⟨name, v⟩ := m
      have hv := ih (name, v) (.head _) (hp _ (.head _)) _ (ends_membersChars ms r)
      have hrest := entries_membersChars (fun m hm => ih m (.tail _ hm) (hp m (.tail _ hm))) r
      rw [← ofChars_append] at hv
      have hb : Braces (Spells depth) Holds _ (.object (Members.ofList ((name, v) :: ms))) r :=
        .members (.entry rfl (name_stringChars name _ r) hv hrest) hn
      rw [Members.ofList_of_ordered ho] at hb
      rw [chars, ofChars_member]
      exact .object (.none _) hb

theorem ofString_text (v : Json) : Utf8.ofString v.text = Utf8.ofChars v.chars := by
  rw [Utf8.ofString, text, String.toList_ofList]

/-- The text of a value is read as that value. -/
theorem Exact.read_text {depth : Nat} {v : Json} (h : Exact depth v) (hp : Plain v) :
    read (readValue depth) v.text = .ok v := by
  have hr := h.reproduced hp [] ends_nil
  rw [List.append_nil] at hr
  rw [read_eq_ok_iff, ofString_text]
  exact ⟨[], hr, .none _⟩

end Stagehand.Json
