import Stagehand.Proofs.Cache.Reply
import Stagehand.Proofs.Json.Integer
import Stagehand.Proofs.Json.Plain

/-!
# Numbers that come back
An increment answers with the very number that the result of the reply is written as, if it is
written as an integer of 64 bits with a sign, and refuses every other result. It takes a result for
the number that is read from it where it is fetched as a text.
-/

namespace Stagehand

open Json

/-! ### Where a result stands -/

namespace CacheReply

/-- The members of a reply from one of them on, where the result stands between `t` and `u`. -/
inductive Around (t u : List Sym) : (first : Bool) → List Sym → Option (Option String) →
    List Sym → Prop
  | result {first : Bool} {e : Option (Option String)} {s x r : List Sym}
    (hs : Separator first s x) (hn : Name x "result" t) (h : Fields false u none e r) :
    Around t u first s e r
  | error {first : Bool} {e : Option String} {s x y z r : List Sym}
    (hs : Separator first s x) (hn : Name x "error" y) (he : Nullable Text y e z)
    (h : Around t u false z none r) : Around t u first s (some e) r
  | other {first : Bool} {name : String} {e : Option (Option String)} {s x y z r : List Sym}
    (hs : Separator first s x) (hn : Name x name y) (hr : name ≠ "result") (he : name ≠ "error")
    (hy : Skipped .value y z) (h : Around t u false z e r) : Around t u first s e r

/-- A body that is a reply without an error, where the result stands between `t` and `u`. -/
inductive ResultAt (body : List UInt8) (t u : List Sym) : Prop
  | object {e : Option (Option String)} {s r : List Sym} (h : Mark '\x7b' (Utf8.symbols body) s)
    (hf : Around t u true s e r) (he : e.join = none) (hb : Blanks r [])
  | item {r : List Sym} (h : Mark '[' (Utf8.symbols body) t) (hm : Mark ']' u r)
    (hb : Blanks r [])
  | items {s x r : List Sym} (h : Mark '[' (Utf8.symbols body) t) (hc : Mark ',' u s)
    (he : Nullable Text s none x) (hm : Mark ']' x r) (hb : Blanks r [])

theorem fields_result_iff {first : Bool} {v : Json} {e : Option (Option String)} {s r : List Sym} :
    Fields first s (some v) e r ↔
      ∃ t u, Around t u first s e r ∧ Spells (maxDepth - 1) t v u := by
  constructor
  · intro h
    generalize ho : some v = o at h
    induction h with
    | close => cases ho
    | result hs hn hv h =>
      cases ho
      exact ⟨_, _, .result hs hn h, hv⟩
    | error hs hn he _ ih =>
      obtain ⟨t, u, h, hv⟩ := ih ho
      exact ⟨t, u, .error hs hn he h, hv⟩
    | other hs hn hr he hx _ ih =>
      obtain ⟨t, u, h, hv⟩ := ih ho
      exact ⟨t, u, .other hs hn hr he hx h, hv⟩
  · rintro ⟨t, u, h, hv⟩
    induction h with
    | result hs hn h => exact .result hs hn hv h
    | error hs hn he _ ih => exact .error hs hn he ih
    | other hs hn hr he hx _ ih => exact .other hs hn hr he hx ih

/-- What the result of a reply is spelled as is what the reply comes to. -/
theorem ResultAt.replies {body : List UInt8} {t u : List Sym} {v : Json} (h : ResultAt body t u)
    (hv : Spells (maxDepth - 1) t v u) : Replies body v none := by
  cases h with
  | object h hf he hb =>
    have hf' := fields_result_iff.mpr ⟨t, u, hf, hv⟩
    exact ⟨some v, _, _, .object h hf', hb, rfl, he.symm⟩
  | item h hm hb => exact ⟨some v, none, _, .array h (.result hv hm), hb, rfl, rfl⟩
  | items h hc he hm hb => exact ⟨some v, some none, _, .array h (.both hv hc he hm), hb, rfl, rfl⟩

/-- A result that is not null stands somewhere in the reply. -/
theorem Replies.resultAt {body : List UInt8} {v : Json} (h : Replies body v none)
    (hv : v ≠ .null) : ∃ t u, ResultAt body t u ∧ Spells (maxDepth - 1) t v u := by
  obtain ⟨o, e, r, hs, hb, rfl, he⟩ := h
  cases o with
  | none => exact absurd rfl hv
  | some v =>
    cases hs with
    | object h hf =>
      obtain ⟨t, u, hf, hv⟩ := fields_result_iff.mp hf
      exact ⟨t, u, .object h hf he.symm hb, hv⟩
    | array h hi =>
      cases hi with
      | result hv hm => exact ⟨_, _, .item h hm hb, hv⟩
      | both hv hc hx hm =>
        cases he
        exact ⟨_, _, .items h hc hx hm hb, hv⟩

/-! ### Results that are integers -/

/-- A body whose result is written as an integer of 64 bits with a sign. -/
structure Tells (body : List UInt8) (n : Int) : Prop where
  writes : ∃ t u, ResultAt body t u ∧ Writes n t u
  signed : IsSigned64 n

/-- A reply tells the integer that its result is, within the bounds. -/
theorem Replies.tells_iff {body : List UInt8} {v : Json} (h : Replies body v none) {n : Int} :
    Tells body n ↔ Counts v n ∧ IsSigned64 n := by
  constructor
  · rintro ⟨⟨t, u, hr, hw⟩, hs⟩
    obtain ⟨hlo, hhi⟩ := hs
    obtain ⟨w, hspells, hc⟩ := hw.spells ⟨hlo, by omega⟩ 125
    rw [(h.unique (hr.replies hspells)).1]
    exact ⟨hc, hlo, hhi⟩
  · rintro ⟨hc, hs⟩
    have hne : v ≠ .null := by
      rintro rfl
      cases hc
    obtain ⟨t, u, hr, hv⟩ := h.resultAt hne
    exact ⟨⟨t, u, hr, hv.writes hc⟩, hs⟩

end CacheReply

/-! ### Answers -/

namespace CacheCommand

/-- The outcome of an increment, by the integer that its result is. -/
theorem answer_increment (key : String) (amount : Int) (v : Json) :
    (∃ n, Counts v n ∧ IsSigned64 n ∧
      (increment key amount).answer v = .ok (.number n)) ∨
    (∀ n, Counts v n → ¬ IsSigned64 n) ∧
      (increment key amount).answer v = .error (.unexpectedReply "INCRBY" v.text) := by
  cases v with
  | number x =>
    cases x with
    | integer n =>
      by_cases hn : fitsSigned64 n = true
      · exact .inl ⟨n, .number n, fitsSigned64_iff.mp hn, by simp [answer, hn]⟩
      · refine .inr ⟨?_, by simp [answer, hn, name]⟩
        rintro m ⟨⟩
        exact mt fitsSigned64_iff.mpr hn
    | real x =>
      refine .inr ⟨?_, rfl⟩
      intro n hc
      cases hc
  | string text =>
    cases ht : signed64? text.toList with
    | some n =>
      obtain ⟨hn, hbounds⟩ := signed64?_eq_some_iff.mp ht
      exact .inl ⟨n, .string hn, hbounds, by simp [answer, ht]⟩
    | none =>
      refine .inr ⟨?_, by simp [answer, ht, name]⟩
      rintro n (- | hn) hbounds
      rw [signed64?_eq_some_iff.mpr ⟨hn, hbounds⟩] at ht
      cases ht
  | null | bool _ | array _ | object _ =>
    refine .inr ⟨?_, rfl⟩
    intro n hc
    cases hc

theorem answer_increment_eq_ok_iff {key : String} {amount : Int} {v : Json} {a : CacheAnswer} :
    (increment key amount).answer v = .ok a ↔
      ∃ n, a = .number n ∧ Counts v n ∧ IsSigned64 n := by
  rcases answer_increment key amount v with ⟨n, hc, hbounds, h⟩ | ⟨hn, h⟩
  · rw [h]
    constructor
    · rintro ⟨⟩
      exact ⟨n, rfl, hc, hbounds⟩
    · rintro ⟨m, rfl, hm, -⟩
      rw [hc.unique hm]
  · rw [h]
    constructor
    · rintro ⟨⟩
    · rintro ⟨n, -, hc, hbounds⟩
      exact absurd hbounds (hn n hc)

/-- What is fetched as a text spells an integer just where the result is that integer. -/
theorem answer_get_iff {key : String} {v : Json} {n : Int} :
    (∃ t, (get key).answer v = .ok (.value (some t)) ∧ Numeral.Signed t.toList n) ↔
      Counts v n := by
  constructor
  · rintro ⟨t, ht, hn⟩
    cases v with
    | number x =>
      cases ht
      rw [String.toList_ofList, Number.signed_chars_iff] at hn
      subst hn
      exact .number n
    | string text =>
      cases ht
      exact .string hn
    | null => cases ht
    | bool b => cases ht
    | array vs => cases ht
    | object ms => cases ht
  · intro h
    cases h with
    | number =>
      refine ⟨_, rfl, ?_⟩
      rw [String.toList_ofList, Number.signed_chars_iff]
    | string hn => exact ⟨_, rfl, hn⟩

/-- A result that means no answer is refused as unexpected. -/
theorem answer_eq_error {c : CacheCommand} {v : Json} {e : CacheError}
    (h : c.answer v = .error e) : e = .unexpectedReply c.name v.text := by
  simp only [answer] at h
  split at h
  -- only what is taken for a number is looked at any further
  case h_6 | h_7 =>
    split at h <;> cases h
    rfl
  all_goals cases h
  rfl

end CacheCommand

/-- Whether a payload cannot be read does not depend on the command. -/
theorem CacheCommand.classify_eq_payload_congr {command other : String} {status : Status}
    {body : List UInt8} {e : ReadError} :
    classify command status body = .error (.payload e) ↔
      classify other status body = .error (.payload e) := by
  rw [classify, classify]
  cases CacheReply.parse body with
  | error f => cases status.isSuccess <;> simp
  | ok reply =>
    obtain ⟨result, _ | message⟩ := reply
    · cases status.isSuccess <;> simp
    · simp

namespace RemoteCache

variable {r : RemoteCache} {c : CacheCommand} {w : World}

/-- A command fails as its exchange does, unless its result means no answer. -/
theorem perform_eq_error_iff {e : CacheError}
    (he : ∀ name reply, e ≠ .unexpectedReply name reply) :
    (r.perform c w).1 = .error e ↔ (r.execute c w).1 = .error e := by
  rw [perform_eq]
  cases (r.execute c w).1 with
  | error e => simp [Except.bind]
  | ok v =>
    simp only [Except.bind, reduceCtorEq, iff_false]
    intro h
    exact he _ _ (CacheCommand.answer_eq_error h)

theorem perform_eq_remote_iff {name m : String} {s : Status} :
    (r.perform c w).1 = .error (.remote name s m) ↔
      (r.execute c w).1 = .error (.remote name s m) :=
  perform_eq_error_iff fun _ _ h => by cases h

theorem perform_eq_payload_iff {e : ReadError} :
    (r.perform c w).1 = .error (.payload e) ↔ (r.execute c w).1 = .error (.payload e) :=
  perform_eq_error_iff fun _ _ h => by cases h

/-- An increment answers with an integer just where the result of a successful reply is written as
that integer, be it in an embedded text, and it has 64 bits with a sign. Every other result is
refused, and its text reported. The reply comes over plain `http`, since a peer behind `https` never
answers here. -/
theorem perform_increment_exact (r : RemoteCache) (key : String) (amount : Int) (w : World)
    {response : Response} {v : Json}
    (h : (Request.exchange maxRedirects (r.request (.increment key amount)) w.network).1 =
      .ok response)
    (hs : 200 ≤ response.status.code ∧ response.status.code ≤ 299)
    (hv : CacheReply.Replies response.body v none) :
    (∀ a, (r.perform (.increment key amount) w).1 = .ok a ↔
      ∃ n, a = .number n ∧ CacheReply.Tells response.body n) ∧
    ((¬ ∃ n, CacheReply.Tells response.body n) →
      (r.perform (.increment key amount) w).1 = .error (.unexpectedReply "INCRBY" v.text)) := by
  have hexecute : (r.execute (.increment key amount) w).1 = .ok v := by
    rw [execute_fst h, CacheCommand.classify_eq_ok_iff, response.status.isSuccess_iff]
    exact ⟨hs, hv⟩
  have hperform : (r.perform (.increment key amount) w).1 =
      (CacheCommand.increment key amount).answer v := by
    rw [perform_eq, hexecute]
    rfl
  rw [hperform]
  constructor
  · intro a
    simp only [hv.tells_iff]
    exact CacheCommand.answer_increment_eq_ok_iff
  · intro hn
    rcases CacheCommand.answer_increment key amount v with ⟨n, hc, hbounds, -⟩ | ⟨-, he⟩
    · exact absurd ⟨n, hv.tells_iff.mpr ⟨hc, hbounds⟩⟩ hn
    · exact he

/-- The least integer is answered as a number, and the first one beyond the greatest is refused,
though written as a string with a sign and a zero in front. -/
theorem perform_increment_exact_bounds :
    let least := Json.number (.integer (-9223372036854775808))
    let beyond := Json.string "+09223372036854775808"
    let outcome (v : Json) := ((loopback "http").perform (.increment "k" 1)
      { network := .peer [resultResponse v] }).1
    outcome least = .ok (.number (-9223372036854775808)) ∧
    outcome beyond = .error (.unexpectedReply "INCRBY" "\"+09223372036854775808\"") := by
  intro least beyond outcome
  have hleast : CacheReply.Replies (resultResponse least).body least none :=
    CacheReply.replies_result (.integer ⟨by decide, by decide⟩) .number
  have hbeyond : CacheReply.Replies (resultResponse beyond).body beyond none :=
    CacheReply.replies_result .string .string
  have hx (v : Json) := exchange_loopback (.increment "k" 1) (resultResponse v) rfl rfl
  obtain ⟨hok, -⟩ := perform_increment_exact (loopback "http") "k" 1
    { network := .peer [resultResponse least] } (hx least) ⟨by decide, by decide⟩ hleast
  obtain ⟨-, herror⟩ := perform_increment_exact (loopback "http") "k" 1
    { network := .peer [resultResponse beyond] } (hx beyond) ⟨by decide, by decide⟩ hbeyond
  constructor
  · exact (hok _).mpr ⟨_, rfl, hleast.tells_iff.mpr ⟨.number _, by decide⟩⟩
  · rw [show outcome beyond = _ from herror ?_]
    · rfl
    · rintro ⟨n, hn⟩
      obtain ⟨hc, -, hhi⟩ := hbeyond.tells_iff.mp hn
      have hspelled : Numeral.Signed "+09223372036854775808".toList 9223372036854775808 :=
        Numeral.integer?_eq_some_iff.mp (by decide)
      rw [hc.unique (.string hspelled)] at hhi
      exact absurd hhi (by decide)

/-- An object is taken for a number where it holds the embedded text of one. -/
theorem perform_increment_embedded :
    let result := Json.object [(embeddedName, .string "5")]
    let w : World := { network := .peer [resultResponse result] }
    let outcome := ((loopback "http").perform (.increment "k" 1) w).1
    outcome = .ok (.number 5) ∧ outcome ≠ .error (.unexpectedReply "INCRBY" result.text) := by
  intro result w outcome
  have hfive : Exact maxDepth (.number (.integer 5)) := .integer ⟨by decide, by decide⟩
  have hspells := spells_embedding hfive .number 125 (Utf8.ofChars (membersChars []) ++ [])
  have hreplies : CacheReply.Replies (resultResponse result).body (.number (.integer 5)) none :=
    CacheReply.replies_of_spells hspells
  have houtcome : ((loopback "http").perform (.increment "k" 1) w).1 = .ok (.number 5) := by
    rw [perform_eq_ok_iff, execute_fst (exchange_loopback _ _ rfl rfl)]
    exact ⟨_, CacheCommand.classify_eq_ok_iff.mpr ⟨by decide, hreplies⟩, rfl⟩
  refine ⟨houtcome, fun h => ?_⟩
  cases houtcome.symm.trans h

/-- Of one reply an increment reads the number that is spelled by the text that is fetched, and
there is none where no such number is spelled. Both fail alike where the service refuses them or
the payload cannot be read. Both replies come over plain `http`, since a peer behind `https` never
answers here. -/
theorem perform_increment_get (r : RemoteCache) (key : String) (amount : Int) {w w' : World}
    {a b : Response}
    (ha : (Request.exchange maxRedirects (r.request (.increment key amount)) w.network).1 = .ok a)
    (hb : (Request.exchange maxRedirects (r.request (.get key)) w'.network).1 = .ok b)
    (hstatus : a.status = b.status) (hbody : a.body = b.body) :
    let incremented := (r.perform (.increment key amount) w).1
    let fetched := (r.perform (.get key) w').1
    (∀ x, incremented = .ok x ↔ ∃ m t, x = .number m ∧ fetched = .ok (.value (some t)) ∧
      Numeral.Signed t.toList m ∧ IsSigned64 m) ∧
    (∀ name s m, incremented = .error (.remote name s m) ↔
      name = "INCRBY" ∧ fetched = .error (.remote "GET" s m)) ∧
    (∀ name s m, fetched = .error (.remote name s m) ↔
      name = "GET" ∧ incremented = .error (.remote "INCRBY" s m)) ∧
    ∀ e, incremented = .error (.payload e) ↔ fetched = .error (.payload e) := by
  intro incremented fetched
  have hx := execute_fst ha
  have hy := execute_fst hb
  rw [hstatus, hbody] at hx
  refine ⟨?_, ?_, ?_, ?_⟩
  · intro x
    simp only [incremented, fetched, perform_eq_ok_iff, hx, hy, CacheCommand.classify_eq_ok_iff,
      CacheCommand.answer_increment_eq_ok_iff]
    constructor
    · rintro ⟨v, hv, m, rfl, hc, hbounds⟩
      obtain ⟨t, ht, hm⟩ := CacheCommand.answer_get_iff.mpr hc
      exact ⟨m, t, rfl, ⟨v, hv, ht⟩, hm, hbounds⟩
    · rintro ⟨m, t, rfl, ⟨v, hv, ht⟩, hm, hbounds⟩
      exact ⟨v, hv, m, rfl, CacheCommand.answer_get_iff.mp ⟨t, ht, hm⟩, hbounds⟩
  · intro name s m
    simp only [incremented, fetched, perform_eq_remote_iff, hx, hy,
      CacheCommand.classify_eq_remote_iff, CacheCommand.name, true_and]
  · intro name s m
    simp only [incremented, fetched, perform_eq_remote_iff, hx, hy,
      CacheCommand.classify_eq_remote_iff, CacheCommand.name, true_and]
  · intro e
    simp only [incremented, fetched, perform_eq_payload_iff, hx, hy]
    exact CacheCommand.classify_eq_payload_congr

/-- A text with a sign and zeros in front is fetched as it is, and so it is a number to an
increment. -/
theorem perform_increment_get_padded :
    let response := resultResponse (.string "+0017")
    let w : World := { network := .peer [response] }
    ((loopback "http").perform (.get "k") w).1 = .ok (.value (some "+0017")) ∧
    ((loopback "http").perform (.increment "k" 1) w).1 = .ok (.number 17) := by
  intro response w
  have hx (c : CacheCommand) :
      (Request.exchange maxRedirects ((loopback "http").request c) w.network).1 = .ok response :=
    exchange_loopback c response rfl rfl
  have hv : CacheReply.Replies response.body (.string "+0017") none :=
    CacheReply.replies_result .string .string
  have hfetched : ((loopback "http").perform (.get "k") w).1 = .ok (.value (some "+0017")) := by
    rw [perform_eq_ok_iff, execute_fst (hx _)]
    exact ⟨_, CacheCommand.classify_eq_ok_iff.mpr ⟨by decide, hv⟩, rfl⟩
  obtain ⟨hok, -⟩ := perform_increment_get (loopback "http") "k" 1 (hx _) (hx _) rfl rfl
  have hspelled : Numeral.Signed "+0017".toList 17 := Numeral.integer?_eq_some_iff.mp (by decide)
  exact ⟨hfetched, (hok _).mpr ⟨17, "+0017", rfl, hfetched, hspelled, by decide⟩⟩

end RemoteCache

end Stagehand
