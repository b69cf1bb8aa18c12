import Stagehand.Proofs.Json.RoundTrip

/-!
# Values that come back from their texts
The text of a value is read as that value only if no object in it begins with the name of embedded
texts. An object that does is read for the text that it holds, and only if it holds nothing else;
and no value that is read is an object of that kind.
-/

namespace Stagehand

/-! ### Objects of nothing but an embedded text -/

theorem Members.get?_extend_isSome {α : Type} {name : String} {ms : Members α}
    (h : (get? name ms).isSome) (entries : List (String × α)) :
    (get? name (extend ms entries)).isSome := by
  induction entries generalizing ms with
  | nil => exact h
  | cons m entries ih =>
    rw [extend_cons]
    apply ih
    rw [get?_insert]
    split
    · rfl
    · exact h

theorem Members.Ordered.of_names {α β : Type} {ms : List (String × α)} {es : List (String × β)}
    (h : Ordered ms) (hn : names es = names ms) : Ordered es := by
  have hnames : (names ms).Pairwise (· < ·) := List.pairwise_map.mpr h
  rw [← hn] at hnames
  exact List.pairwise_map.mp hnames

namespace Json

/-- A value that is not an object of nothing but an embedded text. -/
def NotEmbedding (v : Json) : Prop := ∀ x, v ≠ .object [(embeddedName, x)]

/-- Members that do not begin with a name do not come down to that name. -/
theorem notEmbedding_ofList {es : List (String × Json)}
    (h : (Members.names es).head? ≠ some embeddedName) :
    NotEmbedding (.object (Members.ofList es)) := by
  intro x hx
  cases es with
  | nil => cases hx
  | cons m es =>
    obtain ⟨name, a⟩ := m
    have hname : name ≠ embeddedName := fun hn => h (congrArg some hn)
    have hsome : (Members.get? name (Members.ofList ((name, a) :: es))).isSome := by
      rw [Members.ofList, Members.extend_cons]
      apply Members.get?_extend_isSome
      rw [Members.get?_insert_self]
      rfl
    rw [Json.object.inj hx, Members.get?, if_neg hname] at hsome
    cases hsome

theorem SpellsWith.notEmbedding {E : String → Json → Prop}
    (hE : ∀ {text v}, E text v → NotEmbedding v) {depth : Nat} {s r : List Sym} {v : Json}
    (h : SpellsWith E depth s v r) : NotEmbedding v := by
  cases depth with
  | zero =>
    cases h with
    | array _ hv => exact hv.elim
    | object _ hv => exact hv.elim
    | null | yes | no | number | string => exact fun x hx => by cases hx
  | succ depth =>
    cases h with
    | object _ hv =>
      cases hv with
      | members _ hn => exact notEmbedding_ofList hn
      | embedded _ _ hv _ => exact hE hv
    | null | yes | no | number | string | array => exact fun x hx => by cases hx

/-- What a text holds is not an object of nothing but an embedded text. -/
theorem Holds.notEmbedding {text : String} {v : Json} (h : Holds text v) : NotEmbedding v := by
  obtain ⟨n, h⟩ := h
  induction n generalizing text v with
  | zero => exact h.elim
  | succ n ih =>
    obtain ⟨r, hr, -⟩ := h
    exact hr.notEmbedding ih

/-! ### What a text leads with -/

theorem mark_cons_iff {c d : Char} (h : ¬ IsBlank (.char d)) {s r : List Sym} :
    Mark c (.char d :: s) r ↔ c = d ∧ r = s := by
  constructor
  · intro hm
    cases hm with
    | none => exact ⟨rfl, rfl⟩
    | more hd => exact absurd hd h
  · rintro ⟨rfl, rfl⟩
    exact .none _

theorem Mark.unique {c d : Char} (hc : ¬ IsBlank (.char c)) (hd : ¬ IsBlank (.char d))
    {s r r' : List Sym} (h : Mark c s r) (h' : Mark d s r') : c = d ∧ r = r' := by
  have hs := (skipBlanks_eq_char_iff hc).mpr h
  rw [(skipBlanks_eq_char_iff hd).mpr h'] at hs
  cases hs
  exact ⟨rfl, rfl⟩

theorem Name.unique {s r r' : List Sym} {name name' : String} (h : Name s name r)
    (h' : Name s name' r') : name = name' ∧ r = r' := by
  obtain ⟨t, u, hq, hl, hc⟩ := h
  obtain ⟨t', u', hq', hl', hc'⟩ := h'
  obtain ⟨-, rfl⟩ := hq.unique (by decide) (by decide) hq'
  obtain ⟨rfl, rfl⟩ := hl.unique hl'
  exact ⟨rfl, (hc.unique (by decide) (by decide) hc').2⟩

/-- No name begins with what leads in an item or closes an object. -/
theorem not_name {c : Char} (hb : ¬ IsBlank (.char c)) (hc : '"' ≠ c) {s r : List Sym}
    {name : String} : ¬ Name (.char c :: s) name r := by
  rintro ⟨t, u, hq, -, -⟩
  exact hc ((mark_cons_iff hb).mp hq).1

theorem spells_bracket_iff {depth : Nat} {s r : List Sym} {v : Json} :
    Spells (depth + 1) (.char '[' :: s) v r ↔
      ∃ vs, Items (Spells depth) true s vs r ∧ v = .array vs := by
  have hread : readValue (depth + 1) (.char '[' :: s) =
      mapResult .array (readArray (readValue depth) s) := rfl
  rw [← (reads_readValue _).iff, hread, mapResult_eq_ok_iff]
  simp only [readArray_eq_ok_iff (reads_readValue depth), eq_comm]

theorem spells_brace_iff {depth : Nat} {s r : List Sym} {v : Json} :
    Spells (depth + 1) (.char '\x7b' :: s) v r ↔ Braces (Spells depth) Holds s v r := by
  have hread : readValue (depth + 1) (.char '\x7b' :: s) =
      readBraces readInner (readValue depth) s := rfl
  rw [← (reads_readValue _).iff, hread,
    readBraces_eq_ok_iff readInner_eq_ok_iff (reads_readValue depth)]

/-- No array ends where the text of a value begins. -/
theorem Exact.not_close {depth : Nat} {v : Json} (h : Exact depth v) {r : List Sym} (hr : Ends r)
    (t : List Sym) : ¬ Mark ']' (Utf8.ofChars v.chars ++ r) t := by
  have hplain (hp : Plain v) : ¬ Mark ']' (Utf8.ofChars v.chars ++ r) t := by
    intro hm
    obtain ⟨c, u, hs, hc⟩ := (reads_readValue depth).leads (h.reproduced hp r hr)
    rw [(skipBlanks_eq_char_iff (by decide)).mpr hm] at hs
    cases hs
    exact hc lead_close
  cases h with
  | null => exact hplain .null
  | bool => exact hplain .bool
  | integer => exact hplain .number
  | string => exact hplain .string
  | @array _ vs =>
    intro hm
    cases vs <;> exact absurd ((mark_cons_iff (by decide)).mp hm).1 (by decide)
  | @object _ ms =>
    intro hm
    cases ms <;> exact absurd ((mark_cons_iff (by decide)).mp hm).1 (by decide)

/-! ### What a text is read as -/

/-- A value whose text spells something only up to its end, and the value itself only if that is
plain. -/
def Faithful (depth : Nat) (v : Json) : Prop :=
  ∀ r, Ends r → ∀ w t, Spells depth (Utf8.ofChars v.chars ++ r) w t → t = r ∧ (w = v → Plain v)

theorem Exact.faithful_of_plain {depth : Nat} {v : Json} (h : Exact depth v) (hp : Plain v) :
    Faithful depth v := by
  intro r hr w t hw
  exact ⟨(hw.unique (h.reproduced hp r hr)).2, fun _ => hp⟩

theorem faithful_itemsChars {depth : Nat} {vs : List Json} (h : ∀ v ∈ vs, Faithful depth v)
    {r t : List Sym} {ws : List Json}
    (hi : Items (Spells depth) false (Utf8.ofChars (itemsChars vs) ++ r) ws t) :
    t = r ∧ (ws = vs → ∀ v ∈ vs, Plain v) := by
  induction vs generalizing ws with
  | nil =>
    cases hi with
    | close hm => exact ⟨((mark_cons_iff (by decide)).mp hm).2, fun _ => List.forall_mem_nil _⟩
    | item hs => exact absurd ((mark_cons_iff (by decide)).mp hs).1 (by decide)
  | cons v vs ih =>
    rw [itemsChars, List.cons_append, ofChars_cons, ofChars_append] at hi
    cases hi with
    | close hm => exact absurd ((mark_cons_iff (by decide)).mp hm).1 (by decide)
    | item hs ha hi =>
      obtain ⟨-, rfl⟩ := (mark_cons_iff (by decide)).mp hs
      obtain ⟨rfl, hv⟩ := h v (.head _) _ (ends_itemsChars vs r) _ _ ha
      obtain ⟨rfl, hvs⟩ := ih (fun v hv => h v (.tail _ hv)) hi
      refine ⟨rfl, fun he => List.forall_mem_cons.mpr ?_⟩
      obtain ⟨hw, hws⟩ := List.cons.inj he
      exact ⟨hv hw, hvs hws⟩

theorem faithful_membersChars {depth : Nat} {ms : List (String × Json)}
    (h : ∀ m ∈ ms, Faithful depth m.2) {r t : List Sym} {es : List (String × Json)}
    (he : Entries (Spells depth) false (Utf8.ofChars (membersChars ms) ++ r) es t) :
    t = r ∧ Members.names es = Members.names ms ∧ (es = ms → ∀ m ∈ ms, Plain m.2) := by
  induction ms generalizing es with
  | nil =>
    cases he with
    | close hm => exact ⟨((mark_cons_iff (by decide)).mp hm).2, rfl, fun _ => List.forall_mem_nil _⟩
    | entry hs => exact absurd ((mark_cons_iff (by decide)).mp hs).1 (by decide)
  | cons m ms ih =>
    obtain ⟨name, v⟩ := m
    rw [membersChars, ofChars_member] at he
    cases he with
    | close hm => exact absurd ((mark_cons_iff (by decide)).mp hm).1 (by decide)
    | entry hs hn ha he =>
      obtain ⟨-, rfl⟩ := (mark_cons_iff (by decide)).mp hs
      obtain ⟨rfl, rfl⟩ := hn.unique (name_stringChars name _ r)
      rw [ofChars_append] at ha
      obtain ⟨rfl, hv⟩ := h _ (.head _) _ (ends_membersChars ms r) _ _ ha
      obtain ⟨rfl, hnames, hms⟩ := ih (fun m hm => h m (.tail _ hm)) he
      refine ⟨rfl, congrArg (_ :: ·) hnames, fun he => List.forall_mem_cons.mpr ?_⟩
      obtain ⟨hw, hws⟩ := List.cons.inj he
      exact ⟨hv (Prod.mk.inj hw).2, hms hws⟩

theorem faithful_array {depth : Nat} {vs : List Json} (hx : ∀ v ∈ vs, Exact depth v)
    (h : ∀ v ∈ vs, Faithful depth v) : Faithful (depth + 1) (.array vs) := by
  intro r _ w t hw
  cases vs with
  | nil =>
    obtain ⟨ws, hi, -⟩ := spells_bracket_iff.mp hw
    cases hi with
    | close hm =>
      obtain ⟨-, hr⟩ := (mark_cons_iff (by decide)).mp hm
      exact ⟨hr, fun _ => .array (List.forall_mem_nil _)⟩
    | item hs ha =>
      cases hs
      obtain ⟨c, u, hc, hlead⟩ := (reads_readValue depth).leads ha
      cases hc
      exact absurd lead_close hlead
  | cons v vs =>
    rw [chars, List.cons_append, ofChars_cons, ofChars_append] at hw
    obtain ⟨ws, hi, rfl⟩ := spells_bracket_iff.mp hw
    cases hi with
    | close hm => exact absurd hm ((hx v (.head _)).not_close (ends_itemsChars vs r) t)
    | item hs ha hi =>
      cases hs
      obtain ⟨rfl, hv⟩ := h v (.head _) _ (ends_itemsChars vs r) _ _ ha
      obtain ⟨rfl, hvs⟩ := faithful_itemsChars (fun v hv => h v (.tail _ hv)) hi
      refine ⟨rfl, fun he => .array (List.forall_mem_cons.mpr ?_)⟩
      obtain ⟨hw, hws⟩ := List.cons.inj (Json.array.inj he)
      exact ⟨hv hw, hvs hws⟩

/-- What follows the opening brace in the text of an object that has members. -/
def afterBrace (name : String) (v : Json) (ms : List (String × Json)) (r : List Sym) : List Sym :=
  Utf8.ofChars (stringChars name ++ ':' :: (v.chars ++ membersChars ms)) ++ r

section Members

variable {depth : Nat} {name : String} {v : Json} {ms : List (String × Json)} {r t : List Sym}

/-- The members come back unless they are taken for an embedded text. -/
theorem faithful_members (ho : Members.Ordered ((name, v) :: ms))
    (h : ∀ m ∈ (name, v) :: ms, Faithful depth m.2) {es : List (String × Json)}
    (he : Entries (Spells depth) true (afterBrace name v ms r) es t)
    (hn : (Members.names es).head? ≠ some embeddedName) :
    t = r ∧ (object (Members.ofList es) = .object ((name, v) :: ms) →
      Plain (.object ((name, v) :: ms))) := by
  have hname := name_stringChars name (v.chars ++ membersChars ms) r
  cases he with
  | close hm =>
    obtain ⟨x, y, hq, -⟩ := hname
    exact absurd (hq.unique (by decide) (by decide) hm).1 (by decide)
  | @entry _ _ a es _ _ _ _ _ hs hn' ha he =>
    cases hs
    obtain ⟨rfl, rfl⟩ := hn'.unique hname
    rw [ofChars_append] at ha
    obtain ⟨rfl, hv⟩ := h _ (.head _) _ (ends_membersChars ms r) _ _ ha
    obtain ⟨rfl, hnames, hms⟩ := faithful_membersChars (fun m hm => h m (.tail _ hm)) he
    have hes : Members.Ordered ((_, a) :: es) := ho.of_names (congrArg (_ :: ·) hnames)
    refine ⟨rfl, fun heq => .object hn (List.forall_mem_cons.mpr ?_)⟩
    rw [Members.ofList_of_ordered hes] at heq
    cases heq
    exact ⟨hv rfl, hms rfl⟩

/-- An embedded text is the only member, and its value is not the object that it stands in. -/
theorem faithful_embedded (h : Faithful depth v) {a b : List Sym} {text : String} {w : Json}
    (hn : Name (afterBrace name v ms r) embeddedName a) (ht : Text a text b)
    (hx : Holds text w) (hm : Mark '}' b t) : t = r ∧ w ≠ .object ((name, v) :: ms) := by
  obtain ⟨rfl, rfl⟩ := hn.unique (name_stringChars name (v.chars ++ membersChars ms) r)
  obtain ⟨u, hq, hl⟩ := ht
  rw [ofChars_append] at hq
  obtain ⟨rfl, -⟩ := h _ (ends_membersChars ms r) _ _ (spells_of_shape (.string hq hl))
  cases ms with
  | nil => exact ⟨((mark_cons_iff (by decide)).mp hm).2, hx.notEmbedding v⟩
  | cons m ms => exact absurd ((mark_cons_iff (by decide)).mp hm).1 (by decide)

end Members

theorem faithful_object {depth : Nat} {ms : List (String × Json)} (ho : Members.Ordered ms)
    (h : ∀ m ∈ ms, Faithful depth m.2) : Faithful (depth + 1) (.object ms) := by
  intro r _ w t hw
  cases ms with
  | nil =>
    cases spells_brace_iff.mp hw with
    | members he =>
      cases he with
      | close hm => exact ⟨((mark_cons_iff (by decide)).mp hm).2, fun _ => .object nofun nofun⟩
      | entry hs hn =>
        cases hs
        exact absurd hn (not_name (by decide) (by decide))
    | embedded hn => exact absurd hn (not_name (by decide) (by decide))
  | cons m ms =>
    obtain ⟨name, v⟩ := m
    rw [chars, ofChars_member] at hw
    cases spells_brace_iff.mp hw with
    | members he hn => exact faithful_members ho h he hn
    | embedded hn ht hx hm =>
      obtain ⟨ht, hne⟩ := faithful_embedded (h _ (.head _)) hn ht hx hm
      exact ⟨ht, fun heq => absurd heq hne⟩

theorem Exact.faithful {depth : Nat} {v : Json} (h : Exact depth v) : Faithful depth v := by
  induction h with
  | null => exact Exact.faithful_of_plain .null .null
  | bool => exact Exact.faithful_of_plain .bool .bool
  | integer hn => exact Exact.faithful_of_plain (.integer hn) .number
  | string => exact Exact.faithful_of_plain .string .string
  | array h ih => exact faithful_array h ih
  | object ho _ ih => exact faithful_object ho ih

/-- The text of a value is read as that value exactly where no object in it begins with the name of
embedded texts. -/
theorem Exact.read_text_iff {depth : Nat} {v : Json} (h : Exact depth v) :
    read (readValue depth) v.text = .ok v ↔ Plain v := by
  refine ⟨fun hr => ?_, h.read_text⟩
  rw [read_eq_ok_iff, ofString_text] at hr
  obtain ⟨r, hr, -⟩ := hr
  rw [← List.append_nil (Utf8.ofChars _)] at hr
  exact (h.faithful [] ends_nil v r hr).2 rfl

/-- An object with nothing but an embedded text spells what the text was written of. -/
theorem spells_embedding {v : Json} (h : Exact maxDepth v) (hp : Plain v) (depth : Nat)
    (r : List Sym) :
    Spells (depth + 1) (Utf8.ofChars (object [(embeddedName, .string v.text)]).chars ++ r) v r := by
  have hv : Holds v.text v := parse_eq_ok_iff.mp (h.read_text hp)
  have hq := letters_stringChars v.text.toList (Utf8.ofChars (membersChars []) ++ r)
  rw [chars, ofChars_member]
  refine spells_brace_iff.mpr (.embedded (name_stringChars embeddedName _ r) ?_ hv (.none _))
  rw [ofChars_append]
  exact ⟨_, .none _, hq⟩

/-- An object with nothing but an embedded text is read for what the text was written of. -/
theorem read_embedding {v : Json} (h : Exact maxDepth v) (hp : Plain v) (depth : Nat) :
    read (readValue (depth + 1)) (object [(embeddedName, .string v.text)]).text = .ok v := by
  have hr := spells_embedding h hp depth []
  rw [List.append_nil] at hr
  rw [read_eq_ok_iff, ofString_text]
  exact ⟨[], hr, .none _⟩

end Json

end Stagehand
