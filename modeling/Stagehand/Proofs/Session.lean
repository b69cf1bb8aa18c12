import Stagehand.Access
import Stagehand.Proofs.Role

/-!
# Sessions against the grammar
A session is spelled by an object with its parts in any order, or by an array of all of them. Its
own text is one of many that spell it, and whatever text it was read from, it is read back from its
own.
-/

namespace Stagehand.Session

open Json

/-! ### Tenants -/

theorem requireTenant_eq_ok_iff {s : Session} {tenant : String} :
    s.requireTenant = .ok tenant ↔ s.tenantId = some tenant ∧ tenant ≠ "" := by
  have htenant : s.tenant = some tenant ↔ s.tenantId = some tenant ∧ tenant ≠ "" := by
    rw [Session.tenant, Option.filter_eq_some_iff, decide_eq_true_eq]
  rw [← htenant, requireTenant]
  cases s.tenant with
  | none => exact ⟨nofun, nofun⟩
  | some t => rw [Except.ok.injEq, Option.some.injEq]

theorem requireTenant_of_lacks {s : Session} (h : s.tenantId = none ∨ s.tenantId = some "") :
    s.requireTenant = .error .tenantRequired := by
  have htenant : s.tenant = none := by
    rw [Session.tenant]
    rcases h with h | h
    · rw [h]
      rfl
    · rw [h]
      rfl
  rw [requireTenant, htenant]

/-! ### The grammar of sessions -/

/-- A part of a session with its value. -/
inductive Part
  | tenant (id : Option String)
  | user (id : Option String)
  | role (role : Role)

namespace Part

/-- The name under which a part stands in an object. -/
def name : Part → String
  | tenant _ => "tenantId"
  | user _ => "userId"
  | role _ => "role"

/-- The value of a part. A tenant or a user may be null. -/
inductive Spelled : List Sym → Part → List Sym → Prop
  | tenant {id : Option String} {s r : List Sym} (h : Nullable Text s id r) :
    Spelled s (tenant id) r
  | user {id : Option String} {s r : List Sym} (h : Nullable Text s id r) : Spelled s (user id) r
  | role {ρ : Role} {s r : List Sym} (h : Role.Spelled s ρ r) : Spelled s (role ρ) r

end Part

/-- The names of all parts. -/
def partNames : List String := ["tenantId", "userId", "role"]

/-- The members of a session from one of them on. Members of other names do not matter. -/
inductive Fields : (first : Bool) → List Sym → List Part → List Sym → Prop
  | close {first : Bool} {s r : List Sym} (h : Mark '}' s r) : Fields first s [] r
  | part {first : Bool} {part : Part} {parts : List Part} {s t u x r : List Sym}
    (hs : Separator first s t) (hn : Name t part.name u) (hp : part.Spelled u x)
    (h : Fields false x parts r) : Fields first s (part :: parts) r
  | other {first : Bool} {name : String} {parts : List Part} {s t u x r : List Sym}
    (hs : Separator first s t) (hn : Name t name u) (hne : name ∉ partNames)
    (hx : Skipped .value u x) (h : Fields false x parts r) : Fields first s parts r

/-- The session that parts make: each of them is there at most once, and the role is among them. A
tenant or a user that is not there is missing. -/
structure Makes (parts : List Part) (s : Session) : Prop where
  once : (parts.map Part.name).Nodup
  tenant : .tenant s.tenantId ∈ parts ∨ s.tenantId = none ∧ "tenantId" ∉ parts.map Part.name
  user : .user s.userId ∈ parts ∨ s.userId = none ∧ "userId" ∉ parts.map Part.name
  role : .role s.role ∈ parts

/-- A session in a JSON text. -/
inductive Spelled : List Sym → Session → List Sym → Prop
  | object {parts : List Part} {session : Session} {s t r : List Sym} (h : Mark '\x7b' s t)
    (hf : Fields true t parts r) (hp : Makes parts session) : Spelled s session r
  | array {tenant user : Option String} {role : Role} {s t u v w x y r : List Sym}
    (h : Mark '[' s t) (ht : Nullable Text t tenant u) (hu : Mark ',' u v)
    (hv : Nullable Text v user w) (hw : Mark ',' w x) (hx : Role.Spelled x role y)
    (hy : Mark ']' y r) : Spelled s ⟨tenant, user, role⟩ r

/-! ### What has been read of a session -/

namespace Partial

/-- The part of a name, if it has been read. -/
def part? (p : Partial) (name : String) : Option Part :=
  if name = "tenantId" then p.tenantId.map .tenant
  else if name = "userId" then p.userId.map .user
  else if name = "role" then p.role.map .role
  else none

/-- What has been read after a part has come. -/
def take (p : Partial) : Part → Partial
  | .tenant id => { p with tenantId := some id }
  | .user id => { p with userId := some id }
  | .role role => { p with role := some role }

/-- Whether parts may still come: each of them once, and none that has come already. -/
def Admits (p : Partial) (parts : List Part) : Prop :=
  (parts.map Part.name).Nodup ∧ ∀ part ∈ parts, p.part? part.name = none

@[simp] theorem part?_start (name : String) : ({} : Partial).part? name = none := by
  simp [part?]

theorem part?_take (p : Partial) (part : Part) (name : String) :
    (p.take part).part? name = if name = part.name then some part else p.part? name := by
  cases part <;> simp only [part?, take, Part.name] <;> grind

theorem admits_cons {p : Partial} {part : Part} {parts : List Part} :
    p.Admits (part :: parts) ↔ p.part? part.name = none ∧ (p.take part).Admits parts := by
  simp only [Admits, List.map_cons, List.nodup_cons, List.forall_mem_cons, part?_take,
    List.mem_map, not_exists, not_and]
  grind

/-- What is there once some parts have come: what was there before, and these parts. -/
theorem Admits.part?_foldl {p : Partial} {parts : List Part} (h : p.Admits parts) {name : String}
    {part : Part} : (parts.foldl take p).part? name = some part ↔
      p.part? name = some part ∨ part ∈ parts ∧ part.name = name := by
  induction parts generalizing p with
  | nil => simp
  | cons first parts ih =>
    obtain ⟨hfirst, hparts⟩ := admits_cons.mp h
    rw [List.foldl_cons, ih hparts, part?_take]
    grind

/-! ### Members of a session -/

theorem readTenant_eq_ok_iff {p q : Partial} {s r : List Sym} :
    p.readTenant s = .ok (q, r) ↔ ∃ id, Nullable Text s id r ∧ q = p.take (.tenant id) := by
  simp only [readTenant, mapResult_eq_ok_iff, readOption_eq_ok_iff reads_readText, take]
  grind

theorem readUser_eq_ok_iff {p q : Partial} {s r : List Sym} :
    p.readUser s = .ok (q, r) ↔ ∃ id, Nullable Text s id r ∧ q = p.take (.user id) := by
  simp only [readUser, mapResult_eq_ok_iff, readOption_eq_ok_iff reads_readText, take]
  grind

theorem readRole_eq_ok_iff {p q : Partial} {s r : List Sym} :
    p.readRole s = .ok (q, r) ↔ ∃ ρ, Role.Spelled s ρ r ∧ q = p.take (.role ρ) := by
  simp only [readRole, mapResult_eq_ok_iff, Role.read_eq_ok_iff, take]
  grind

theorem member_eq_unknown_iff {p : Partial} {name : String} :
    p.member name = .unknown ↔ name ∉ partNames := by
  simp only [member, partNames, List.mem_cons, List.not_mem_nil, or_false]
  grind

theorem member_eq_known_iff {p : Partial} {name : String} {read : Reader Partial} :
    p.member name = .known read ↔ p.part? name = none ∧
      (name = "tenantId" ∧ p.readTenant = read ∨ name = "userId" ∧ p.readUser = read ∨
        name = "role" ∧ p.readRole = read) := by
  have honce {α : Type} (o : Option α) (f : Reader Partial) :
      (if o.isSome then Member.repeated else .known f) = .known read ↔ o = none ∧ f = read := by
    cases o <;> simp
  simp only [member, part?]
  split
  · rename_i h
    simp [honce, h]
  split
  · rename_i h
    simp [honce, h]
  split
  · rename_i h
    simp [honce, h]
  · simp_all

theorem known_iff {p q : Partial} {name : String} {s r : List Sym} :
    (∃ read, p.member name = .known read ∧ read s = .ok (q, r)) ↔
      ∃ part : Part, part.name = name ∧ p.part? part.name = none ∧ part.Spelled s r ∧
        q = p.take part := by
  simp only [member_eq_known_iff]
  constructor
  · rintro ⟨read, ⟨hp, ⟨rfl, rfl⟩ | ⟨rfl, rfl⟩ | ⟨rfl, rfl⟩⟩, h⟩
    · obtain ⟨id, hid, rfl⟩ := readTenant_eq_ok_iff.mp h
      exact ⟨.tenant id, rfl, hp, .tenant hid, rfl⟩
    · obtain ⟨id, hid, rfl⟩ := readUser_eq_ok_iff.mp h
      exact ⟨.user id, rfl, hp, .user hid, rfl⟩
    · obtain ⟨ρ, hρ, rfl⟩ := readRole_eq_ok_iff.mp h
      exact ⟨.role ρ, rfl, hp, .role hρ, rfl⟩
  · rintro ⟨part, rfl, hp, hs, rfl⟩
    cases hs with
    | tenant hid =>
      exact ⟨_, ⟨hp, .inl ⟨rfl, rfl⟩⟩, readTenant_eq_ok_iff.mpr ⟨_, hid, rfl⟩⟩
    | user hid =>
      exact ⟨_, ⟨hp, .inr (.inl ⟨rfl, rfl⟩)⟩, readUser_eq_ok_iff.mpr ⟨_, hid, rfl⟩⟩
    | role hρ =>
      exact ⟨_, ⟨hp, .inr (.inr ⟨rfl, rfl⟩)⟩, readRole_eq_ok_iff.mpr ⟨_, hρ, rfl⟩⟩

end Partial

theorem steady_readTenant (p : Partial) : Steady p.readTenant :=
  (reads_readOption reads_readText).steady.mapResult _

theorem steady_readUser (p : Partial) : Steady p.readUser :=
  (reads_readOption reads_readText).steady.mapResult _

theorem steady_readRole (p : Partial) : Steady p.readRole := Role.reads_read.steady.mapResult _

theorem isSteady_record : record.IsSteady where
  member {p name read} h := by
    rcases (Partial.member_eq_known_iff.mp h).2 with ⟨-, rfl⟩ | ⟨-, rfl⟩ | ⟨-, rfl⟩
    · exact steady_readTenant p
    · exact steady_readUser p
    · exact steady_readRole p
  items {item} h p := by
    simp only [record, List.mem_cons, List.not_mem_nil, or_false] at h
    rcases h with rfl | rfl | rfl
    · exact steady_readTenant p
    · exact steady_readUser p
    · exact steady_readRole p

/-! ### Sessions are read as they are spelled -/

theorem recordFields_iff {first : Bool} {p q : Partial} {s r : List Sym} :
    Record.Fields record first p s q r ↔
      ∃ parts, Fields first s parts r ∧ p.Admits parts ∧ q = parts.foldl Partial.take p := by
  constructor
  · intro h
    induction h with
    | close h => exact ⟨[], .close h, ⟨.nil, nofun⟩, rfl⟩
    | unknown hs hn hm hx _ ih =>
      obtain ⟨parts, hf, hp, hq⟩ := ih
      exact ⟨parts, .other hs hn (Partial.member_eq_unknown_iff.mp hm) hx hf, hp, hq⟩
    | known hs hn hm hx _ ih =>
      obtain ⟨parts, hf, hp, hq⟩ := ih
      obtain ⟨part, rfl, hpart, hspelled, rfl⟩ := Partial.known_iff.mp ⟨_, hm, hx⟩
      exact ⟨part :: parts, .part hs hn hspelled hf, Partial.admits_cons.mpr ⟨hpart, hp⟩, hq⟩
  · rintro ⟨parts, h, hp, rfl⟩
    induction h generalizing p with
    | close h => exact .close h
    | part hs hn hspelled _ ih =>
      obtain ⟨hpart, hparts⟩ := Partial.admits_cons.mp hp
      obtain ⟨read, hm, hx⟩ := Partial.known_iff.mpr ⟨_, rfl, hpart, hspelled, rfl⟩
      exact .known hs hn hm hx (ih hparts)
    | other hs hn hne hx _ ih =>
      exact .unknown hs hn (Partial.member_eq_unknown_iff.mpr hne) hx (ih hp)

theorem complete_eq_ok_iff {missing : Cause} {p : Partial} {session : Session} :
    p.complete missing = .ok session ↔ p.role = some session.role ∧
      p.tenantId.getD none = session.tenantId ∧ p.userId.getD none = session.userId := by
  rcases p with ⟨_, _, _ | ρ⟩ <;> cases session
  · simp [Partial.complete, Partial.complete?]
  · simp [Partial.complete, Partial.complete?]
    grind

/-- Where nothing has come of the parts of a name, there are none of them. -/
theorem getD_eq_iff {parts : List Part} {o : Option (Option String)} {id : Option String}
    {f : Option String → Part} {name : String} (hf : Function.Injective f)
    (hname : ∀ id, (f id).name = name)
    (ho : ∀ part, o.map f = some part ↔ part ∈ parts ∧ part.name = name) :
    o.getD none = id ↔ f id ∈ parts ∨ id = none ∧ name ∉ parts.map Part.name := by
  have hid : f id ∈ parts ↔ o.map f = some (f id) := by simp [ho, hname]
  rw [hid]
  cases o with
  | none =>
    have hnone : name ∉ parts.map Part.name := by
      intro h
      obtain ⟨part, hpart, hn⟩ := List.mem_map.mp h
      cases (ho part).mpr ⟨hpart, hn⟩
    simp [hnone, eq_comm]
  | some id' =>
    have hsome : name ∈ parts.map Part.name :=
      List.mem_map.mpr ⟨f id', ((ho _).mp rfl).1, hname id'⟩
    simp [hsome, hf.eq_iff]

theorem makes_iff {parts : List Part} {session : Session} {missing : Cause} :
    Makes parts session ↔ ({} : Partial).Admits parts ∧
      (parts.foldl Partial.take {}).complete missing = .ok session := by
  have hadmits : ({} : Partial).Admits parts ↔ (parts.map Part.name).Nodup := by
    simp [Partial.Admits]
  by_cases h : (parts.map Part.name).Nodup
  · have hcome (name : String) (part : Part) :
        (parts.foldl Partial.take {}).part? name = some part ↔ part ∈ parts ∧ part.name = name := by
      simp [(hadmits.mpr h).part?_foldl]
    rw [complete_eq_ok_iff,
      getD_eq_iff (fun _ _ => Part.tenant.inj) (fun _ => rfl) (hcome "tenantId"),
      getD_eq_iff (fun _ _ => Part.user.inj) (fun _ => rfl) (hcome "userId")]
    have hrole : (parts.foldl Partial.take {}).role = some session.role ↔
        .role session.role ∈ parts := by
      have hcome := hcome "role" (.role session.role)
      simpa [Partial.part?, Part.name] using hcome
    rw [hrole]
    exact ⟨fun ⟨_, ht, hu, hr⟩ => ⟨hadmits.mpr h, hr, ht, hu⟩,
      fun ⟨_, hr, ht, hu⟩ => ⟨h, ht, hu, hr⟩⟩
  · exact ⟨fun hm => absurd hm.once h, fun hm => absurd (hadmits.mp hm.1) h⟩

theorem recordPositions_iff (session : Session) {missing : Cause} {s r : List Sym} :
    (∃ p, Record.Positions record.items true {} s p r ∧ p.complete missing = .ok session) ↔
      ∃ t u v w x, Nullable Text s session.tenantId t ∧ Mark ',' t u ∧
        Nullable Text u session.userId v ∧ Mark ',' v w ∧ Role.Spelled w session.role x ∧
        Mark ']' x r := by
  constructor
  · rintro ⟨p, hp, hc⟩
    have hrole := (complete_eq_ok_iff.mp hc).1
    cases hp with
    | close => cases hrole
    | item hs hi hp =>
    cases hs
    obtain ⟨tenant, ht, rfl⟩ := Partial.readTenant_eq_ok_iff.mp hi
    cases hp with
    | close => cases hrole
    | item hs hi hp =>
    obtain ⟨user, hu, rfl⟩ := Partial.readUser_eq_ok_iff.mp hi
    cases hp with
    | close => cases hrole
    | item hs' hi hp =>
    obtain ⟨ρ, hρ, rfl⟩ := Partial.readRole_eq_ok_iff.mp hi
    cases hp with
    | close hclose =>
      cases hc
      exact ⟨_, _, _, _, _, ht, hs, hu, hs', hρ, hclose⟩
  · rintro ⟨t, u, v, w, x, ht, hs, hu, hs', hρ, hclose⟩
    exact ⟨_, .item rfl (Partial.readTenant_eq_ok_iff.mpr ⟨_, ht, rfl⟩)
      (.item hs (Partial.readUser_eq_ok_iff.mpr ⟨_, hu, rfl⟩)
        (.item hs' (Partial.readRole_eq_ok_iff.mpr ⟨_, hρ, rfl⟩) (.close hclose))), rfl⟩

theorem read_eq_ok_iff {session : Session} {s r : List Sym} :
    read s = .ok (session, r) ↔ Spelled s session r := by
  rw [read, Record.read_eq_ok_iff isSteady_record]
  constructor
  · rintro (⟨t, p, ht, hfields, hp⟩ | ⟨t, p, ht, hitems, hp⟩)
    · obtain ⟨parts, hf, ha, rfl⟩ := recordFields_iff.mp hfields
      exact .object ht hf (makes_iff.mpr ⟨ha, hp⟩)
    · obtain ⟨_, _, _, _, _, h₁, h₂, h₃, h₄, h₅, h₆⟩ :=
        (recordPositions_iff session).mp ⟨p, hitems, hp⟩
      exact .array ht h₁ h₂ h₃ h₄ h₅ h₆
  · intro h
    cases h with
    | object ht hf hp =>
      obtain ⟨ha, hc⟩ := makes_iff.mp hp
      exact .inl ⟨_, _, ht, recordFields_iff.mpr ⟨_, hf, ha, rfl⟩, hc⟩
    | @array tenant user ρ _ _ _ _ _ _ _ _ h ht hu hv hw hx hy =>
      obtain ⟨p, hp, hc⟩ := (recordPositions_iff ⟨tenant, user, ρ⟩).mpr
        ⟨_, _, _, _, _, ht, hu, hv, hw, hx, hy⟩
      exact .inr ⟨_, p, h, hp, hc⟩

/-- A text that is a session, with nothing but blanks around it. -/
def Texts (text : String) (session : Session) : Prop :=
  ∃ r, Spelled (Utf8.ofString text) session r ∧ Blanks r []

theorem parse_eq_ok_iff {text : String} {session : Session} :
    parse text = .ok session ↔ Texts text session := by
  rw [parse, Json.read, readAll_eq_ok_iff]
  simp only [read_eq_ok_iff, Texts]

/-! ### The own text of a session -/

theorem toList_text (s : Session) :
    s.text.toList = '\x7b' :: stringChars "tenantId" ++ ':' :: optionText s.tenantId ++
      (',' :: stringChars "userId" ++ ':' :: optionText s.userId ++
        (',' :: stringChars "role" ++ ':' :: stringChars s.role.slug ++ ['}'])) := by
  have htenant : "\x7b\"tenantId\":".toList = '\x7b' :: stringChars "tenantId" ++ [':'] := rfl
  have huser : ",\"userId\":".toList = ',' :: stringChars "userId" ++ [':'] := rfl
  have hrole : ",\"role\":".toList = ',' :: stringChars "role" ++ [':'] := rfl
  unfold text
  rw [String.toList_ofList, htenant, huser, hrole, Role.jsonName_eq_slug]
  simp only [List.append_assoc, List.cons_append, List.nil_append]

theorem text_stringChars (text : String) (r : List Sym) :
    Text (Utf8.ofChars (stringChars text) ++ r) text r :=
  ⟨_, .none _, letters_stringChars text.toList r⟩

theorem nullable_optionText (id : Option String) (r : List Sym) :
    Nullable Text (Utf8.ofChars (optionText id) ++ r) id r := by
  cases id with
  | none => exact .null (.none _)
  | some id =>
    refine .value (text_stringChars id r) fun t ht => ?_
    rw [← skipBlanks_eq_char_iff (by decide)] at ht
    cases ht

theorem spelled_text (s : Session) : Spelled (Utf8.ofString s.text) s [] := by
  have hparts : Makes [.tenant s.tenantId, .user s.userId, .role s.role] s := by
    refine ⟨?_, .inl (by simp), .inl (by simp), by simp⟩
    simp [Part.name]
  have hrole := text_stringChars s.role.slug (Utf8.ofChars ['}'] ++ [])
  have huser := nullable_optionText s.userId (Utf8.ofChars
    (',' :: stringChars "role" ++ ':' :: stringChars s.role.slug ++ ['}']) ++ [])
  have htenant := nullable_optionText s.tenantId (Utf8.ofChars
    (',' :: stringChars "userId" ++ ':' :: optionText s.userId ++
      (',' :: stringChars "role" ++ ':' :: stringChars s.role.slug ++ ['}'])) ++ [])
  rw [← List.append_assoc, ← Utf8.ofChars_append] at hrole huser htenant
  rw [ofChars_member] at huser htenant
  rw [Utf8.ofString, toList_text, ← List.append_nil (Utf8.ofChars _), ofChars_member]
  exact .object (.none _) (.part rfl (name_stringChars "tenantId" _ []) (.tenant htenant)
    (.part (.none _) (name_stringChars "userId" _ []) (.user huser)
      (.part (.none _) (name_stringChars "role" _ []) (.role (.slug hrole))
        (.close (.none _))))) hparts

/-! ### Round trips -/

theorem parse_text (s : Session) : parse s.text = .ok s :=
  parse_eq_ok_iff.mpr ⟨[], spelled_text s, .none _⟩

theorem text_injective : Function.Injective text := by
  intro s s' h
  have hs := parse_text s
  rw [h, parse_text s'] at hs
  exact (Except.ok.inj hs).symm

/-- Every session is read back from its own text, and no other session has that text. A text is
read as the session that it spells, in any of the ways to spell one; what is read back from the own
text of that session has the same text again, and nothing is decided otherwise about it. A tenant
is required of the text itself: null, missing or empty, it is refused before and after. -/
theorem parse_roundTrips :
    (∀ s : Session, parse s.text = .ok s) ∧
    (∀ s s' : Session, s.text = s'.text → s = s') ∧
    (∀ text s, parse text = .ok s ↔ Texts text s) ∧
    (∀ text s s', parse text = .ok s → parse s.text = .ok s' →
      s' = s ∧ s'.text = s.text ∧ s'.tenant = s.tenant ∧ s'.requireTenant = s.requireTenant ∧
        (∀ allowed, s'.assertRole allowed = s.assertRole allowed) ∧
        ∀ minimum, s'.canAct minimum = s.canAct minimum) ∧
    ∀ text s t, parse text = .ok s →
      (s.requireTenant = .ok t ↔ Texts text { s with tenantId := some t } ∧ t ≠ "") := by
  refine ⟨parse_text, fun s s' h => text_injective h, fun text s => parse_eq_ok_iff, ?_, ?_⟩
  · intro text s s' _ h
    cases (parse_text s).symm.trans h
    exact ⟨rfl, rfl, rfl, rfl, fun _ => rfl, fun _ => rfl⟩
  · intro text s t h
    rw [requireTenant_eq_ok_iff, ← parse_eq_ok_iff, h]
    cases s
    simp

/-- An object with an empty tenant, its members out of order and one of them unknown, and an array
with escapes and a tagged role. -/
theorem parse_roundTrips_shapes :
    let object := "\x7b \"role\": \"fan\", \"x\": [\x7b\x7d], \"tenantId\": \"\" \x7d"
    let array := "[\"\\u00e9\\n\", null, \x7b\"ops_admin\": null\x7d]"
    let fan : Session := ⟨some "", none, .fan⟩
    let admin : Session := ⟨some "é\n", none, .opsAdmin⟩
    parse object = .ok fan ∧ parse fan.text = .ok fan ∧ (∀ t, fan.requireTenant ≠ .ok t) ∧
    parse array = .ok admin ∧ parse admin.text = .ok admin ∧ admin.requireTenant = .ok "é\n" := by
  intro object array fan admin
  have hread {text : String} {s : Session} (h : (parse text).toOption = some s) :
      parse text = .ok s := by
    cases hp : parse text with
    | error e => simp [hp, Except.toOption] at h
    | ok s' => simpa [hp, Except.toOption] using h
  have hobject : parse object = .ok fan := hread (by decide +kernel)
  have harray : parse array = .ok admin := hread (by decide +kernel)
  obtain ⟨hown, -, htexts, -, htenant⟩ := parse_roundTrips
  refine ⟨hobject, hown fan, fun t h => ?_, harray, hown admin, ?_⟩
  · obtain ⟨ht, hne⟩ := (htenant object fan t hobject).mp h
    rw [← htexts, hobject] at ht
    have hid : some "" = some t := congrArg tenantId (Except.ok.inj ht)
    exact hne (Option.some.inj hid).symm
  · exact (htenant array admin "é\n" harray).mpr ⟨(htexts array admin).mp harray, by decide⟩

end Stagehand.Session
