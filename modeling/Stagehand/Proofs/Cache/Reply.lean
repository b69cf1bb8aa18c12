import Stagehand.Proofs.Cache.Command
import Stagehand.Proofs.Json.Record

/-!
# Replies against the grammar
What a body says as a reply, said without its reader; and how the result of a command follows from
that and the status alone.
-/

namespace Stagehand

open Json

/-! ### The grammar of replies -/

namespace CacheReply

/-- The members of a reply from one of them on. The result and the error are there at most once,
and other members do not matter. -/
inductive Fields :
    (first : Bool) → List Sym → Option Json → Option (Option String) → List Sym → Prop
  | close {first : Bool} {s r : List Sym} (h : Mark '}' s r) : Fields first s none none r
  | result {first : Bool} {v : Json} {e : Option (Option String)} {s t u x r : List Sym}
      (hs : Separator first s t) (hn : Name t "result" u) (hv : Spells (maxDepth - 1) u v x)
      (h : Fields false x none e r) : Fields first s (some v) e r
  | error {first : Bool} {v : Option Json} {e : Option String} {s t u x r : List Sym}
      (hs : Separator first s t) (hn : Name t "error" u) (he : Nullable Text u e x)
      (h : Fields false x v none r) : Fields first s v (some e) r
  | other {first : Bool} {name : String} {v : Option Json} {e : Option (Option String)}
      {s t u x r : List Sym} (hs : Separator first s t) (hn : Name t name u)
      (hr : name ≠ "result") (he : name ≠ "error") (hx : Skipped .value u x)
      (h : Fields false x v e r) : Fields first s v e r

/-- The items of a reply that is an array: its result and its error, both or the first or none. -/
inductive Items : List Sym → Option Json → Option (Option String) → List Sym → Prop
  | none {s r : List Sym} (h : Mark ']' s r) : Items s none none r
  | result {v : Json} {s t r : List Sym} (hv : Spells (maxDepth - 1) s v t) (h : Mark ']' t r) :
      Items s (some v) none r
  | both {v : Json} {e : Option String} {s t u x r : List Sym}
      (hv : Spells (maxDepth - 1) s v t) (hc : Mark ',' t u) (he : Nullable Text u e x)
      (h : Mark ']' x r) : Items s (some v) (some e) r

/-- A reply with its result and its error, as far as they are there. -/
inductive Spelled : List Sym → Option Json → Option (Option String) → List Sym → Prop
  | object {v : Option Json} {e : Option (Option String)} {s t r : List Sym}
      (h : Mark '\x7b' s t) (hf : Fields true t v e r) : Spelled s v e r
  | array {v : Option Json} {e : Option (Option String)} {s t r : List Sym}
      (h : Mark '[' s t) (hi : Items t v e r) : Spelled s v e r

/-- A body that is a reply: its result is null where it is missing, and its error is missing where
it is null. -/
def Replies (body : List UInt8) (result : Json) (error : Option String) : Prop :=
  ∃ v e r, Spelled (Utf8.symbols body) v e r ∧ Blanks r [] ∧
    result = v.getD .null ∧ error = e.join

/-! ### What has been read of a reply -/

namespace Partial

theorem readResult_eq_ok_iff {p q : Partial} {s r : List Sym} :
    p.readResult s = .ok (q, r) ↔
      ∃ v, Spells (maxDepth - 1) s v r ∧ q = { p with result := some v } := by
  rw [readResult, mapResult_eq_ok_iff]
  simp only [(reads_readValue _).iff, eq_comm]

theorem readError_eq_ok_iff {p q : Partial} {s r : List Sym} :
    p.readError s = .ok (q, r) ↔
      ∃ e, Nullable Text s e r ∧ q = { p with error := some e } := by
  rw [readError, mapResult_eq_ok_iff]
  constructor
  · rintro ⟨e, he, rfl⟩
    exact ⟨e, (readOption_eq_ok_iff reads_readText).mp he, rfl⟩
  · rintro ⟨e, he, rfl⟩
    exact ⟨e, (readOption_eq_ok_iff reads_readText).mpr he, rfl⟩

theorem member_eq_unknown_iff {p : Partial} {name : String} :
    p.member name = .unknown ↔ name ≠ "result" ∧ name ≠ "error" := by
  rw [member]
  split
  · rename_i h
    split <;> simp [h]
  split
  · rename_i h
    split <;> simp [h]
  · rename_i hr he
    exact ⟨fun _ => ⟨hr, he⟩, fun _ => rfl⟩

theorem member_eq_known_iff {p : Partial} {name : String} {read : Reader Partial} :
    p.member name = .known read ↔
      (name = "result" ∧ p.result = none ∧ p.readResult = read) ∨
      (name = "error" ∧ p.error = none ∧ p.readError = read) := by
  rw [member]
  split
  · rename_i h
    split
    · rename_i hp
      simp [h, Option.isSome_iff_ne_none.mp hp]
    · rename_i hp
      simp [h, Option.not_isSome_iff_eq_none.mp hp]
  split
  · rename_i h
    split
    · rename_i hp
      simp [h, Option.isSome_iff_ne_none.mp hp]
    · rename_i hp
      simp [h, Option.not_isSome_iff_eq_none.mp hp]
  · rename_i hr he
    simp [hr, he]

/-- Whether a result and an error may still come, each of them unless it has come already. -/
structure Admits (p : Partial) (v : Option Json) (e : Option (Option String)) : Prop where
  result : p.result = none ∨ v = none
  error : p.error = none ∨ e = none

/-- What has been read after a result and an error have come. -/
def having (p : Partial) (v : Option Json) (e : Option (Option String)) : Partial :=
  ⟨p.result.or v, p.error.or e⟩

@[simp] theorem having_none (p : Partial) : p.having none none = p := by
  rw [having, Option.or_none, Option.or_none]

end Partial

theorem isSteady_record : record.IsSteady where
  member {p name read} h := by
    rcases Partial.member_eq_known_iff.mp h with ⟨-, -, rfl⟩ | ⟨-, -, rfl⟩
    · exact (reads_readValue _).steady.mapResult _
    · exact (reads_readOption reads_readText).steady.mapResult _
  items {item} h p := by
    rcases List.mem_cons.mp h with rfl | h
    · exact (reads_readValue _).steady.mapResult _
    · rw [List.mem_singleton.mp h]
      exact (reads_readOption reads_readText).steady.mapResult _

/-! ### Replies are read as they are spelled -/

theorem recordFields_iff {first : Bool} {p q : Partial} {s r : List Sym} :
    Record.Fields record first p s q r ↔
      ∃ v e, Fields first s v e r ∧ p.Admits v e ∧ q = p.having v e := by
  constructor
  · intro h
    induction h with
    | close h => exact ⟨none, none, .close h, ⟨.inr rfl, .inr rfl⟩, (Partial.having_none _).symm⟩
    | unknown hs hn hm hx _ ih =>
      obtain ⟨v, e, hf, hp, hq⟩ := ih
      obtain ⟨hr, he⟩ := Partial.member_eq_unknown_iff.mp hm
      exact ⟨v, e, .other hs hn hr he hx hf, hp, hq⟩
    | @known first name read p p₁ q s t u x r hs hn hm hx _ ih =>
      obtain ⟨v, e, hf, hp, rfl⟩ := ih
      rcases Partial.member_eq_known_iff.mp hm with ⟨rfl, hp', rfl⟩ | ⟨rfl, hp', rfl⟩
      · obtain ⟨w, hw, rfl⟩ := Partial.readResult_eq_ok_iff.mp hx
        cases hp.result.resolve_left nofun
        refine ⟨some w, e, .result hs hn hw hf, ⟨.inl hp', hp.error⟩, ?_⟩
        rw [Partial.having, Partial.having, hp']
        rfl
      · obtain ⟨w, hw, rfl⟩ := Partial.readError_eq_ok_iff.mp hx
        cases hp.error.resolve_left nofun
        refine ⟨v, some w, .error hs hn hw hf, ⟨hp.result, .inl hp'⟩, ?_⟩
        rw [Partial.having, Partial.having, hp']
        rfl
  · rintro ⟨v, e, h, hp, rfl⟩
    induction h generalizing p with
    | close h =>
      rw [Partial.having_none]
      exact .close h
    | @result first v e s t u x r hs hn hv _ ih =>
      have hnone : p.result = none := hp.result.resolve_right nofun
      refine .known hs hn (Partial.member_eq_known_iff.mpr (.inl ⟨rfl, hnone, rfl⟩))
        (Partial.readResult_eq_ok_iff.mpr ⟨v, hv, rfl⟩) ?_
      have hq : p.having (some v) e =
          Partial.having { p with result := some v } none e := by
        rw [Partial.having, Partial.having, hnone]
        rfl
      rw [hq]
      exact ih ⟨.inr rfl, hp.error⟩
    | @error first v e s t u x r hs hn he _ ih =>
      have hnone : p.error = none := hp.error.resolve_right nofun
      refine .known hs hn (Partial.member_eq_known_iff.mpr (.inr ⟨rfl, hnone, rfl⟩))
        (Partial.readError_eq_ok_iff.mpr ⟨e, he, rfl⟩) ?_
      have hq : p.having v (some e) = Partial.having { p with error := some e } v none := by
        rw [Partial.having, Partial.having, hnone]
        rfl
      rw [hq]
      exact ih ⟨hp.result, .inr rfl⟩
    | other hs hn hr he hx _ ih =>
      exact .unknown hs hn (Partial.member_eq_unknown_iff.mpr ⟨hr, he⟩) hx (ih hp)

theorem recordPositions_iff {p : Partial} {s r : List Sym} :
    Record.Positions record.items true {} s p r ↔
      ∃ v e, Items s v e r ∧ p = Partial.having {} v e := by
  constructor
  · intro h
    cases h with
    | close h => exact ⟨none, none, .none h, rfl⟩
    | item hs hi h =>
      cases hs
      obtain ⟨v, hv, rfl⟩ := Partial.readResult_eq_ok_iff.mp hi
      cases h with
      | close h => exact ⟨some v, none, .result hv h, rfl⟩
      | item hs hi h =>
        obtain ⟨e, he, rfl⟩ := Partial.readError_eq_ok_iff.mp hi
        cases h with
        | close h => exact ⟨some v, some e, .both hv hs he h, rfl⟩
  · rintro ⟨v, e, h, rfl⟩
    cases h with
    | none h => exact .close h
    | result hv h =>
      exact .item rfl (Partial.readResult_eq_ok_iff.mpr ⟨_, hv, rfl⟩) (.close h)
    | both hv hc he h =>
      exact .item rfl (Partial.readResult_eq_ok_iff.mpr ⟨_, hv, rfl⟩)
        (.item hc (Partial.readError_eq_ok_iff.mpr ⟨_, he, rfl⟩) (.close h))

theorem complete_having (v : Option Json) (e : Option (Option String)) :
    Partial.complete (Partial.having {} v e) = .ok ⟨v, e.join⟩ := by
  rw [Partial.complete, Partial.having, Option.none_or, Option.none_or]

theorem read_record_eq_ok_iff {reply : CacheReply} {s r : List Sym} :
    record.read s = .ok (reply, r) ↔ ∃ v e, Spelled s v e r ∧ reply = ⟨v, e.join⟩ := by
  rw [Record.read_eq_ok_iff isSteady_record]
  constructor
  · rintro (⟨t, p, ht, hfields, hp⟩ | ⟨t, p, ht, hitems, hp⟩)
    · obtain ⟨v, e, hf, -, rfl⟩ := recordFields_iff.mp hfields
      refine ⟨v, e, .object ht hf, ?_⟩
      exact (Except.ok.inj ((complete_having v e).symm.trans hp)).symm
    · obtain ⟨v, e, hi, rfl⟩ := recordPositions_iff.mp hitems
      refine ⟨v, e, .array ht hi, ?_⟩
      exact (Except.ok.inj ((complete_having v e).symm.trans hp)).symm
  · rintro ⟨v, e, h, rfl⟩
    cases h with
    | object ht hf =>
      refine .inl ⟨_, Partial.having {} v e, ht, ?_, complete_having v e⟩
      exact recordFields_iff.mpr ⟨v, e, hf, ⟨.inl rfl, .inl rfl⟩, rfl⟩
    | array ht hi =>
      refine .inr ⟨_, Partial.having {} v e, ht, ?_, complete_having v e⟩
      exact recordPositions_iff.mpr ⟨v, e, hi, rfl⟩

/-- A body is read as a reply exactly where it is one. -/
theorem replies_iff {body : List UInt8} {v : Json} {e : Option String} :
    Replies body v e ↔ ∃ o, parse body = .ok ⟨o, e⟩ ∧ v = o.getD .null := by
  simp only [parse, readAll_eq_ok_iff, read_record_eq_ok_iff]
  constructor
  · rintro ⟨o, e, r, h, hb, rfl, rfl⟩
    exact ⟨o, ⟨r, ⟨o, e, h, rfl⟩, hb⟩, rfl⟩
  · rintro ⟨o, ⟨r, ⟨v, e, h, heq⟩, hb⟩, rfl⟩
    cases heq
    exact ⟨o, e, r, h, hb, rfl, rfl⟩

/-- A body is one reply at most. -/
theorem Replies.unique {body : List UInt8} {v v' : Json} {e e' : Option String}
    (h : Replies body v e) (h' : Replies body v' e') : v = v' ∧ e = e' := by
  obtain ⟨o, ho, rfl⟩ := replies_iff.mp h
  obtain ⟨o', ho', rfl⟩ := replies_iff.mp h'
  rw [ho] at ho'
  cases ho'
  exact ⟨rfl, rfl⟩

/-- The text of an object with nothing but a result is a reply with what that result spells. -/
theorem replies_of_spells {u v : Json}
    (h : Spells (maxDepth - 1) (Utf8.ofChars u.chars ++ (Utf8.ofChars (membersChars []) ++ [])) v
      (Utf8.ofChars (membersChars []) ++ [])) :
    Replies (Utf8.bytes (Json.object [("result", u)]).chars) v none := by
  rw [← ofChars_append] at h
  have hs : Spelled (Utf8.symbols (Utf8.bytes (Json.object [("result", u)]).chars))
      (some v) none [] := by
    rw [Utf8.symbols_bytes, ← List.append_nil (Utf8.ofChars _), chars, ofChars_member]
    exact .object (.none _) (.result rfl (name_stringChars "result" _ []) h (.close (.none _)))
  exact ⟨some v, none, [], hs, .none _, rfl, rfl⟩

/-- The text of an object with nothing but a result is a reply with that result. -/
theorem replies_result {v : Json} (h : Exact (maxDepth - 1) v) (hp : Plain v) :
    Replies (Utf8.bytes (Json.object [("result", v)]).chars) v none :=
  replies_of_spells (h.reproduced hp _ (ends_membersChars [] []))

/-- The text of an object with nothing but an error is a reply with that error. -/
theorem replies_error (m : String) :
    Replies (Utf8.bytes (Json.object [("error", .string m)]).chars) .null (some m) := by
  have hm : Nullable Text (Utf8.ofChars ((Json.string m).chars ++ membersChars []) ++ [])
      (some m) (Utf8.ofChars (membersChars []) ++ []) := by
    rw [ofChars_append]
    refine .value ⟨_, .none _, letters_stringChars m.toList _⟩ fun t ht => ?_
    rw [← skipBlanks_eq_char_iff (by decide)] at ht
    cases ht
  have hs : Spelled (Utf8.symbols (Utf8.bytes (Json.object [("error", .string m)]).chars))
      none (some (some m)) [] := by
    rw [Utf8.symbols_bytes, ← List.append_nil (Utf8.ofChars _), chars, ofChars_member]
    exact .object (.none _) (.error rfl (name_stringChars "error" _ []) hm (.close (.none _)))
  exact ⟨none, some (some m), [], hs, .none _, rfl, rfl⟩

theorem replies_cases (body : List UInt8) :
    (∃ v, Replies body v none) ∨ (∃ v m, Replies body v (some m)) ∨
      ¬ ∃ v e, Replies body v e := by
  by_cases h : ∃ v e, Replies body v e
  · obtain ⟨v, e, h⟩ := h
    cases e with
    | none => exact .inl ⟨v, h⟩
    | some m => exact .inr (.inl ⟨v, m, h⟩)
  · exact .inr (.inr h)

end CacheReply

/-! ### Results of commands -/

theorem Status.isSuccess_iff (s : Status) : s.isSuccess = true ↔ 200 ≤ s.code ∧ s.code ≤ 299 := by
  rw [isSuccess, decide_eq_true_iff]
  omega

namespace CacheCommand

variable {command : String} {status : Status} {body : List UInt8}

theorem classify_of_result {v : Json} (h : CacheReply.Replies body v none) :
    classify command status body =
      if status.isSuccess then .ok v else .error (.remote command status status.text) := by
  obtain ⟨o, hp, rfl⟩ := CacheReply.replies_iff.mp h
  simp only [classify, hp]

theorem classify_of_error {v : Json} {m : String} (h : CacheReply.Replies body v (some m)) :
    classify command status body = .error (.remote command status m) := by
  obtain ⟨o, hp, rfl⟩ := CacheReply.replies_iff.mp h
  simp only [classify, hp]

theorem classify_of_malformed (command : String) (status : Status)
    (h : ¬ ∃ v e, CacheReply.Replies body v e) :
    ∃ e, classify command status body =
      if status.isSuccess then .error (.payload e)
      else .error (.remote command status (Utf8.shown body)) := by
  cases hp : CacheReply.parse body with
  | error e => exact ⟨e, by simp only [classify, hp]⟩
  | ok reply => exact absurd ⟨_, _, CacheReply.replies_iff.mpr ⟨_, hp, rfl⟩⟩ h

theorem classify_eq_ok_iff {v : Json} :
    classify command status body = .ok v ↔
      status.isSuccess = true ∧ CacheReply.Replies body v none := by
  rcases CacheReply.replies_cases body with ⟨u, h⟩ | ⟨u, m, h⟩ | h
  · rw [classify_of_result h]
    constructor
    · intro hv
      split at hv
      · rename_i hs
        cases hv
        exact ⟨hs, h⟩
      · cases hv
    · rintro ⟨hs, hv⟩
      rw [if_pos hs, (h.unique hv).1]
  · rw [classify_of_error h]
    refine ⟨nofun, fun hv => ?_⟩
    cases (h.unique hv.2).2
  · obtain ⟨e, he⟩ := classify_of_malformed command status h
    rw [he]
    constructor
    · intro hv
      split at hv <;> cases hv
    · rintro ⟨-, hv⟩
      exact absurd ⟨v, none, hv⟩ h

theorem classify_eq_remote_iff {name m : String} {s : Status} :
    classify command status body = .error (.remote name s m) ↔
      name = command ∧ s = status ∧
        ((∃ v, CacheReply.Replies body v (some m)) ∨
          ¬ status.isSuccess = true ∧ (∃ v, CacheReply.Replies body v none) ∧ m = status.text ∨
          ¬ status.isSuccess = true ∧ (¬ ∃ v e, CacheReply.Replies body v e) ∧
            m = Utf8.shown body) := by
  rcases CacheReply.replies_cases body with ⟨u, h⟩ | ⟨u, l, h⟩ | h
  · rw [classify_of_result h]
    constructor
    · intro hm
      split at hm
      · cases hm
      · rename_i hs
        cases hm
        exact ⟨rfl, rfl, .inr (.inl ⟨hs, ⟨u, h⟩, rfl⟩)⟩
    · rintro ⟨rfl, rfl, ⟨v, hv⟩ | ⟨hs, -, rfl⟩ | ⟨-, hn, -⟩⟩
      · cases (h.unique hv).2
      · rw [if_neg hs]
      · exact absurd ⟨u, none, h⟩ hn
  · rw [classify_of_error h]
    constructor
    · intro hm
      cases hm
      exact ⟨rfl, rfl, .inl ⟨u, h⟩⟩
    · rintro ⟨rfl, rfl, ⟨v, hv⟩ | ⟨-, ⟨v, hv⟩, -⟩ | ⟨-, hn, -⟩⟩
      · cases (h.unique hv).2
        rfl
      · cases (h.unique hv).2
      · exact absurd ⟨u, some l, h⟩ hn
  · obtain ⟨e, he⟩ := classify_of_malformed command status h
    rw [he]
    constructor
    · intro hm
      split at hm
      · cases hm
      · rename_i hs
        cases hm
        exact ⟨rfl, rfl, .inr (.inr ⟨hs, h, rfl⟩)⟩
    · rintro ⟨rfl, rfl, ⟨v, hv⟩ | ⟨-, ⟨v, hv⟩, -⟩ | ⟨hs, -, rfl⟩⟩
      · exact absurd ⟨v, _, hv⟩ h
      · exact absurd ⟨v, _, hv⟩ h
      · rw [if_neg hs]

theorem classify_eq_payload_iff :
    (∃ e, classify command status body = .error (.payload e)) ↔
      status.isSuccess = true ∧ ¬ ∃ v e, CacheReply.Replies body v e := by
  rcases CacheReply.replies_cases body with ⟨u, h⟩ | ⟨u, m, h⟩ | h
  · rw [classify_of_result h]
    constructor
    · rintro ⟨e, he⟩
      split at he <;> cases he
    · rintro ⟨-, hn⟩
      exact absurd ⟨u, none, h⟩ hn
  · rw [classify_of_error h]
    constructor
    · rintro ⟨e, he⟩
      cases he
    · rintro ⟨-, hn⟩
      exact absurd ⟨u, some m, h⟩ hn
  · obtain ⟨e, he⟩ := classify_of_malformed command status h
    rw [he]
    constructor
    · rintro ⟨e', he⟩
      split at he
      · rename_i hs
        exact ⟨hs, h⟩
      · cases he
    · rintro ⟨hs, -⟩
      exact ⟨e, if_pos hs⟩

end CacheCommand

theorem RemoteCache.execute_fst {r : RemoteCache} {c : CacheCommand} {w : World}
    {response : Response}
    (h : (Request.exchange maxRedirects (r.request c) w.network).1 = .ok response) :
    (r.execute c w).1 = CacheCommand.classify c.name response.status response.body := by
  rw [execute_eq]
  simp only [send, h]

theorem RemoteCache.execute_fst_of_broken {r : RemoteCache} {c : CacheCommand} {w : World}
    {e : ExchangeError}
    (h : (Request.exchange maxRedirects (r.request c) w.network).1 = .error e) :
    (r.execute c w).1 = .error (.transport e) := by
  rw [execute_eq]
  simp only [send, h]

/-- A command yields a value: its exchange ends with a response of success whose body is a reply
with the value and without an error. -/
inductive RemoteCache.Yields (r : RemoteCache) (c : CacheCommand) (network : Network) (v : Json) :
    Prop
  | intro (response : Response)
    (hexchange : (Request.exchange maxRedirects (r.request c) network).1 = .ok response)
    (hsuccess : 200 ≤ response.status.code ∧ response.status.code ≤ 299)
    (hreply : CacheReply.Replies response.body v none)

theorem RemoteCache.execute_eq_ok_iff {r : RemoteCache} {c : CacheCommand} {w : World} {v : Json} :
    (r.execute c w).1 = .ok v ↔ r.Yields c w.network v := by
  constructor
  · intro h
    cases hx : (Request.exchange maxRedirects (r.request c) w.network).1 with
    | error e =>
      rw [execute_fst_of_broken hx] at h
      cases h
    | ok response =>
      rw [execute_fst hx, CacheCommand.classify_eq_ok_iff, response.status.isSuccess_iff] at h
      exact ⟨response, hx, h.1, h.2⟩
  · rintro ⟨response, hx, hs, hreply⟩
    rw [execute_fst hx, CacheCommand.classify_eq_ok_iff, response.status.isSuccess_iff]
    exact ⟨hs, hreply⟩

theorem RemoteCache.perform_eq_ok_iff {r : RemoteCache} {c : CacheCommand} {w : World}
    {answer : CacheAnswer} :
    (r.perform c w).1 = .ok answer ↔ ∃ v, (r.execute c w).1 = .ok v ∧ c.answer v = .ok answer := by
  rw [perform_eq]
  cases (r.execute c w).1 with
  | error e => simp [Except.bind]
  | ok v => simp [Except.bind]

/-- The response of a peer that answers once and does not lead on. -/
theorem RemoteCache.exchange_loopback (c : CacheCommand) (response : Response)
    (hn : response.status.redirect? = none) (hd : response.delivery = .complete) :
    (Request.exchange maxRedirects ((loopback "http").request c) (.peer [response])).1 =
      .ok response := by
  have hopen : ((loopback "http").request c).url.scheme ≠ "https".toList := by
    rw [request_scheme]
    decide
  rw [Request.exchange_of_complete maxRedirects hopen (Request.next?_of_redirect? hn) hd []]

/-- A reply of success with nothing but a result. -/
def RemoteCache.resultResponse (v : Json) : Response :=
  ⟨⟨200⟩, none, Utf8.bytes (Json.object [("result", v)]).chars, .complete⟩

/-- The status and the body of the response decide alone what a command comes to: a value, an
error of the service or an unreadable payload. Nothing but a reply without an error under a status
of success is a value. Exchanges end with a response over plain `http` only, since a peer behind
`https` never answers here. -/
theorem RemoteCache.execute_classifies (r : RemoteCache) (c : CacheCommand) (w : World)
    {response : Response}
    (h : (Request.exchange maxRedirects (r.request c) w.network).1 = .ok response) :
    (∀ v, (r.execute c w).1 = .ok v ↔
      (200 ≤ response.status.code ∧ response.status.code ≤ 299) ∧
        CacheReply.Replies response.body v none) ∧
    (∀ name s m, (r.execute c w).1 = .error (.remote name s m) ↔
      name = c.name ∧ s = response.status ∧
        ((∃ v, CacheReply.Replies response.body v (some m)) ∨
          ¬ (200 ≤ response.status.code ∧ response.status.code ≤ 299) ∧
            (∃ v, CacheReply.Replies response.body v none) ∧ m = response.status.text ∨
          ¬ (200 ≤ response.status.code ∧ response.status.code ≤ 299) ∧
            (¬ ∃ v e, CacheReply.Replies response.body v e) ∧ m = Utf8.shown response.body)) ∧
    ((∃ e, (r.execute c w).1 = .error (.payload e)) ↔
      (200 ≤ response.status.code ∧ response.status.code ≤ 299) ∧
        ¬ ∃ v e, CacheReply.Replies response.body v e) ∧
    (∀ v m, CacheReply.Replies response.body v (some m) → ∀ v', (r.execute c w).1 ≠ .ok v') := by
  rw [execute_fst h, ← response.status.isSuccess_iff]
  refine ⟨fun v => CacheCommand.classify_eq_ok_iff,
    fun name s m => CacheCommand.classify_eq_remote_iff, CacheCommand.classify_eq_payload_iff, ?_⟩
  intro v m hm v' hv
  cases (hm.unique (CacheCommand.classify_eq_ok_iff.mp hv).2).2

/-- Neither a result under a status of failure nor an error under one of success is a value. -/
theorem RemoteCache.execute_classifies_failures :
    let r := loopback "http"
    let c : CacheCommand := .set "k" "v" none
    let failed : Response :=
      ⟨⟨500⟩, none, Utf8.bytes (Json.object [("result", .string "OK")]).chars, .complete⟩
    let refused : Response :=
      ⟨⟨200⟩, none, Utf8.bytes (Json.object [("error", .string "ERR")]).chars, .complete⟩
    (r.execute c { network := .peer [failed] }).1 =
      .error (.remote "SET" ⟨500⟩ "500 Internal Server Error") ∧
    ∀ v, (r.execute c { network := .peer [refused] }).1 ≠ .ok v := by
  intro r c failed refused
  have hresult : CacheReply.Replies failed.body (.string "OK") none :=
    CacheReply.replies_result .string .string
  have herror : CacheReply.Replies refused.body .null (some "ERR") :=
    CacheReply.replies_error "ERR"
  obtain ⟨-, hremote, -, -⟩ :=
    execute_classifies r c { network := .peer [failed] } (exchange_loopback c failed rfl rfl)
  obtain ⟨-, -, -, hnever⟩ :=
    execute_classifies r c { network := .peer [refused] } (exchange_loopback c refused rfl rfl)
  refine ⟨(hremote _ _ _).mpr ⟨rfl, rfl, .inr (.inl ⟨by decide, ⟨_, hresult⟩, ?_⟩)⟩,
    hnever _ _ herror⟩
  decide

end Stagehand
