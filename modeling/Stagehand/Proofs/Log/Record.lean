import Stagehand.Log.Record
import Stagehand.Proofs.Json.Lookup
import Stagehand.Proofs.Json.OneLine
import Stagehand.Proofs.Json.Plain

/-!
# What a record holds
Under its own names a record holds its severity, its message and its time, whatever the context
says. An identifier is null unless the context supplies it, and everything else in the context is
held as it is. The text of a record is one line, and the record is read back from it, unless what
the context supplies is taken for an embedded text.
-/

namespace Stagehand.Record

open Members (Ordered)

/-- The names under which a record holds what the context cannot replace. -/
def coreNames : List String := ["level", "message", "timestamp"]

/-- The names under which a record holds null until the context supplies something. -/
def identifiers : List String := [requestId, tenantId]

/-- The members of a record that belong to the record alone. -/
def core (severity : Severity) (message time : String) : Members Json :=
  [("level", severity.toJson), ("message", .string message), ("timestamp", .string time)]

/-- The members of a record of a severity, a message, a context and the text of a time. -/
structure Describes (severity : Severity) (message : String) (context : LogContext)
    (time : String) (fields : Members Json) : Prop where
  level : Members.get? "level" fields = some (.string severity.slug)
  message : Members.get? "message" fields = some (.string message)
  timestamp : Members.get? "timestamp" fields = some (.string time)
  identifier : ∀ name ∈ identifiers,
    Members.get? name fields = some ((Members.get? name context).getD .null)
  other : ∀ name ∉ coreNames ++ identifiers, Members.get? name fields = Members.get? name context
  ordered : Ordered fields

variable {severity : Severity} {message time : String} {context fields fields' : Members Json}

namespace Describes

theorem get?_core (h : Describes severity message context time fields) {name : String}
    (hn : name ∈ coreNames) :
    Members.get? name fields = Members.get? name (core severity message time) := by
  simp only [coreNames, List.mem_cons, List.not_mem_nil, or_false] at hn
  rcases hn with rfl | rfl | rfl
  · exact h.level
  · exact h.message
  · exact h.timestamp

/-- A record is known by what it is made of. -/
theorem unique (h : Describes severity message context time fields)
    (h' : Describes severity message context time fields') : fields = fields' := by
  apply h.ordered.ext h'.ordered
  intro name
  by_cases hn : name ∈ coreNames ++ identifiers
  · rcases List.mem_append.mp hn with hn | hn
    · rw [h.get?_core hn, h'.get?_core hn]
    · rw [h.identifier name hn, h'.identifier name hn]
  · rw [h.other name hn, h'.other name hn]

/-- The names of a record are its own ones and those of the context. -/
theorem mem_names_iff (h : Describes severity message context time fields) (name : String) :
    name ∈ fields.names ↔ name ∈ coreNames ++ identifiers ∨ name ∈ context.names := by
  rw [← Members.get?_isSome_iff, ← Members.get?_isSome_iff]
  by_cases hn : name ∈ coreNames ++ identifiers
  · simp only [hn, true_or, iff_true]
    rcases List.mem_append.mp hn with hn | hn
    · rw [h.get?_core hn, Members.get?_isSome_iff]
      exact hn
    · rw [h.identifier name hn, Option.isSome_some]
  · rw [h.other name hn, or_iff_right hn]

/-- The members of a record, taken for its context, make the same record. -/
theorem self (h : Describes severity message context time fields) :
    Describes severity message fields time fields where
  level := h.level
  message := h.message
  timestamp := h.timestamp
  identifier name hn := by rw [h.identifier name hn, Option.getD_some]
  other _ _ := rfl
  ordered := h.ordered

end Describes

/-! ### The members that are set -/

theorem ordered_core (severity : Severity) (message time : String) :
    Ordered (core severity message time) := by
  have hnames : (core severity message time).names.Pairwise (· < ·) := by
    rw [show (core severity message time).names = coreNames from rfl]
    decide
  exact List.pairwise_map.mp hnames

theorem placeholders_eq : placeholders = [(requestId, .null), (tenantId, .null)] := by
  apply Members.ofList_of_ordered
  exact List.pairwise_pair.mpr (by decide)

/-- What is found in a record: its own members first, then the context, then null. -/
theorem get?_stamped (severity : Severity) (message time : String) (hc : Ordered context)
    (name : String) :
    Members.get? name (stamped severity message context time).fields =
      (Members.get? name (core severity message time)).or
        ((Members.get? name context).or (Members.get? name placeholders)) := by
  rw [← hc.get?_extend, ← (ordered_core severity message time).get?_extend]
  rfl

theorem get?_core_of_notMem {name : String} (hn : name ∉ coreNames) :
    Members.get? name (core severity message time) = none := by
  rw [← Option.not_isSome_iff_eq_none, Members.get?_isSome_iff]
  exact hn

theorem get?_placeholders_of_mem {name : String} (hn : name ∈ identifiers) :
    Members.get? name placeholders = some .null := by
  simp only [identifiers, List.mem_cons, List.not_mem_nil, or_false] at hn
  rw [placeholders_eq]
  rcases hn with rfl | rfl
  · rfl
  · rfl

theorem get?_placeholders_of_notMem {name : String} (hn : name ∉ identifiers) :
    Members.get? name placeholders = none := by
  rw [← Option.not_isSome_iff_eq_none, Members.get?_isSome_iff, placeholders_eq]
  exact hn

/-- A record has the members that its parts call for. -/
theorem describes_stamped (severity : Severity) (message time : String) (hc : Ordered context) :
    Describes severity message context time (stamped severity message context time).fields where
  level := get?_stamped severity message time hc "level"
  message := get?_stamped severity message time hc "message"
  timestamp := get?_stamped severity message time hc "timestamp"
  identifier name hn := by
    have hcore : name ∉ coreNames := by
      simp only [identifiers, List.mem_cons, List.not_mem_nil, or_false] at hn
      rcases hn with rfl | rfl <;> decide
    rw [get?_stamped severity message time hc, get?_core_of_notMem hcore, Option.none_or,
      get?_placeholders_of_mem hn]
    cases Members.get? name context <;> rfl
  other name hn := by
    obtain ⟨hcore, hid⟩ := not_or.mp (mt List.mem_append.mpr hn)
    rw [get?_stamped severity message time hc, get?_core_of_notMem hcore, Option.none_or,
      get?_placeholders_of_notMem hid, Option.or_none]
  ordered := by
    have hp : Ordered placeholders := by
      rw [placeholders_eq]
      exact List.pairwise_pair.mpr (by decide)
    exact (hp.extend context).extend _

/-- A record has its members from itself, from its context, or from what stands in for them. -/
theorem mem_stamped {m : String × Json}
    (h : m ∈ (stamped severity message context time).fields) :
    m ∈ core severity message time ∨ m ∈ context ∨ m ∈ [(requestId, .null), (tenantId, .null)] := by
  refine (Members.mem_extend h).imp_right fun h => ?_
  rw [← placeholders_eq]
  exact Members.mem_extend h

/-- What is true of texts and of null and of all that a context supplies is true of all that a
record holds. -/
theorem forall_mem_stamped {P : Json → Prop} (hs : ∀ s, P (.string s)) (hnull : P .null)
    (h : ∀ m ∈ context, P m.2) :
    ∀ m ∈ (stamped severity message context time).fields, P m.2 := by
  intro m hm
  rcases mem_stamped hm with hm | hm | hm
  · simp only [core, List.mem_cons, List.not_mem_nil, or_false] at hm
    rcases hm with rfl | rfl | rfl
    · exact hs _
    · exact hs _
    · exact hs _
  · exact h m hm
  · rw [List.mem_cons, List.mem_singleton] at hm
    rcases hm with rfl | rfl
    · exact hnull
    · exact hnull

/-- A record holds no numbers and no nesting that its context does not hold. -/
theorem exact_stamped {depth : Nat} (severity : Severity) (message time : String)
    (h : Json.Exact (depth + 1) (.object context)) :
    Json.Exact (depth + 1) (.object (stamped severity message context time).fields) := by
  cases h with
  | object hc h =>
    exact .object (describes_stamped severity message time hc).ordered
      (forall_mem_stamped (fun _ => .string) .null h)

/-- A record begins with the name of embedded texts only if its context has that name. -/
theorem plain_stamped (severity : Severity) (message time : String) (hc : Ordered context)
    (hn : Json.embeddedName ∉ context.names) (h : ∀ m ∈ context, m.2.Plain) :
    (Json.object (stamped severity message context time).fields).Plain := by
  refine .object (fun hhead => ?_) (forall_mem_stamped (fun _ => .string) .null h)
  have hmem := List.mem_of_mem_head? hhead
  rw [(describes_stamped severity message time hc).mem_names_iff] at hmem
  exact hmem.elim (by decide) hn

/-! ### Records of moments -/

/-- A record holds its severity, its message, the text of its moment and what its context supplies,
and nothing else. Made again from its own members it is the same record. Its text is one line. If
the context holds no other numbers than integers of 64 bits and is not nested too deep, the members
are read back from it just where no object among them begins with the name of embedded texts. -/
theorem ofMoment_describes (severity : Severity) (message : String) {context : LogContext}
    (time : Moment) (hc : Ordered context) :
    let r := ofMoment severity message context time
    Describes severity message context time.text r.fields ∧
    (∀ name, name ∈ r.fields.names ↔
      name ∈ coreNames ++ identifiers ∨ name ∈ context.names) ∧
    ofMoment severity message r.fields time = r ∧
    (∀ c ∈ r.text.toList, ' ' ≤ c) ∧
    (Json.Exact Json.maxDepth (.object context) →
      (Json.parse r.text = .ok (.object r.fields) ↔ (Json.object r.fields).Plain)) := by
  intro r
  have h : Describes severity message context time.text r.fields :=
    describes_stamped severity message time.text hc
  refine ⟨h, h.mem_names_iff, ?_, ?_, ?_⟩
  · have hagain := describes_stamped severity message time.text h.ordered
    rw [ofMoment, stamped, Record.mk.injEq]
    exact ⟨rfl, rfl, hagain.unique h.self⟩
  · rw [text, Json.text, String.toList_ofList]
    exact Json.oneLine_chars _
  · intro he
    exact (exact_stamped severity message time.text he).read_text_iff

/-- A context that claims a severity of its own, with a line break in it, supplies the identifier of
the request and no other. -/
theorem ofMoment_describes_forged :
    let context : LogContext :=
      [("level", .string "debug\n"), ("requestId", .string "r"), ("zone", .array [.null])]
    let r := ofMoment .error "m" context ⟨0, 0⟩
    Ordered context ∧ Json.Exact Json.maxDepth (.object context) ∧
    Members.get? "level" r.fields = some (.string "error") ∧
    Members.get? requestId r.fields = some (.string "r") ∧
    Members.get? tenantId r.fields = some .null ∧
    Members.get? "zone" r.fields = some (.array [.null]) ∧
    Json.parse r.text = .ok (.object r.fields) := by
  intro context r
  have hc : Ordered context := by
    have hnames : context.names.Pairwise (· < ·) := by decide
    exact List.pairwise_map.mp hnames
  have hparts : ∀ m ∈ context, Json.Exact 126 m.2 ∧ m.2.Plain := by
    intro m hm
    simp only [context, List.mem_cons, List.not_mem_nil, or_false] at hm
    rcases hm with rfl | rfl | rfl
    · exact ⟨.string, .string⟩
    · exact ⟨.string, .string⟩
    · constructor
      · refine .array fun v hv => ?_
        rw [List.mem_singleton.mp hv]
        exact .null
      · refine .array fun v hv => ?_
        rw [List.mem_singleton.mp hv]
        exact .null
  have he : Json.Exact Json.maxDepth (.object context) :=
    .object hc fun m hm => (hparts m hm).1
  have hp : (Json.object r.fields).Plain :=
    plain_stamped _ _ _ hc (by decide) fun m hm => (hparts m hm).2
  obtain ⟨h, -, -, -, hparse⟩ := ofMoment_describes .error "m" ⟨0, 0⟩ hc
  refine ⟨hc, he, h.level, ?_, ?_, ?_, (hparse he).mpr hp⟩
  · exact h.identifier requestId (by decide)
  · exact h.identifier tenantId (by decide)
  · exact h.other "zone" (by decide)

/-- A context may bring the name of embedded texts to the front of a record, which is then not read
back. -/
theorem ofMoment_embeds :
    let context : LogContext :=
      [(Json.embeddedName, .string "x"), ("a", .number (.integer 1))]
    let r := ofMoment .info "m" context ⟨0, 0⟩
    Ordered context ∧ Json.Exact Json.maxDepth (.object context) ∧
    Json.parse r.text ≠ .ok (.object r.fields) := by
  intro context r
  have hc : Ordered context := by
    have hnames : context.names.Pairwise (· < ·) := by decide
    exact List.pairwise_map.mp hnames
  have he : Json.Exact (126 + 1) (.object context) := by
    refine .object hc fun m hm => ?_
    simp only [context, List.mem_cons, List.not_mem_nil, or_false] at hm
    rcases hm with rfl | rfl
    · exact .string
    · exact .integer ⟨by decide, by decide⟩
  refine ⟨hc, he, fun hparse => ?_⟩
  cases (exact_stamped _ _ _ he).read_text_iff.mp hparse with
  | object hn _ => exact hn rfl

end Stagehand.Record
