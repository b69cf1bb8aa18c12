import Stagehand.Proofs.Cache.Reply
import Stagehand.Proofs.Json.Plain

/-!
# Values that are kept and found again
A value is kept as a text within the text of a command and comes back as a text within a reply. Both
layers are taken off again without a loss.
-/

namespace Stagehand

open Json

namespace CacheClient

/-- A reply that holds a text gives the value that the text is read as. -/
theorem getJson_of_replies {α : Type} (r : RemoteCache) (reader : Reader α) (key : String)
    {w : World} {response : Response} {text : String} {a : α}
    (h : (Request.exchange maxRedirects (r.request (.get key)) w.network).1 = .ok response)
    (hs : response.status.isSuccess = true)
    (hr : CacheReply.Replies response.body (.string text) none) :
    ((live (.remote r)).getJson reader key w).1 = .ok (some a) ↔ Json.read reader text = .ok a := by
  have hexecute : (r.execute (.get key) w).1 = .ok (.string text) := by
    rw [RemoteCache.execute_fst h]
    exact CacheCommand.classify_eq_ok_iff.mpr ⟨hs, hr⟩
  have hperform : ((live (.remote r)).perform (.get key) w).1 = .ok (.value (some text)) := by
    rw [perform, Backend.perform, RemoteCache.perform_eq, hexecute]
    rfl
  rw [getJson]
  split
  · rename_i he
    rw [he] at hperform
    cases hperform
  · rename_i t u ht
    rw [ht] at hperform
    cases hperform
    cases Json.read reader text <;> simp
  · rename_i answer u hne ht
    rw [ht] at hperform
    cases hperform
    exact absurd rfl (hne text)

/-- A value that is set under a key is sent as a text, which stands in the third place of the body.
Any successful reply that holds this text gives the value back just where no object in it begins
with the name of embedded texts. The reply comes over plain `http`, since a peer behind `https`
never answers here. -/
theorem getJson_of_setJson (r q : RemoteCache) (key : String) (expiry : Option Nat) {v : Json}
    (hv : Exact maxDepth v) :
    let request := r.request (.set key v.text expiry)
    (∀ (w : World) (responses : List Response), w.network = .peer responses →
      r.url.scheme = "http".toList →
      ∃ more, ((live (.remote r)).setJson key v expiry w).2.contacts =
        w.contacts ++ .request request :: more) ∧
    ∃ body text rest, request.body = some body ∧
      Json.parse body = .ok (.array (.string "SET" :: .string key :: .string text :: rest)) ∧
      ∀ (w : World) (response : Response),
        (Request.exchange maxRedirects (q.request (.get key)) w.network).1 = .ok response →
        200 ≤ response.status.code ∧ response.status.code ≤ 299 →
        CacheReply.Replies response.body (.string text) none →
        (((live (.remote q)).getJson (readValue maxDepth) key w).1 = .ok (some v) ↔ v.Plain) := by
  intro request
  constructor
  · intro w responses hw hs
    obtain ⟨more, hmore, -⟩ := RemoteCache.perform_contacts_open (r := r) hw hs
    exact ⟨more, hmore⟩
  · have hparse : ∃ rest, Json.parse (CacheCommand.set key v.text expiry).body =
        .ok (.array (.string "SET" :: .string key :: .string v.text :: rest)) := by
      rw [CacheCommand.parse_body]
      cases expiry with
      | none => exact ⟨[], rfl⟩
      | some seconds => exact ⟨_, rfl⟩
    obtain ⟨rest, hparse⟩ := hparse
    refine ⟨_, v.text, rest, r.request_body _, hparse, ?_⟩
    intro w response h hs hreply
    rw [getJson_of_replies q _ key h (response.status.isSuccess_iff.mpr hs) hreply]
    exact hv.read_text_iff

/-- A value at the bounds of what is kept: null, the least and the largest integer. -/
def bounds : Json :=
  .object [("absent", .null), ("least", .number (.integer (-0x8000000000000000))),
    ("most", .number (.integer 0xffffffffffffffff))]

theorem exact_bounds : Exact maxDepth bounds := by
  have ho : Members.Ordered [("absent", Json.null),
      ("least", .number (.integer (-0x8000000000000000))),
      ("most", .number (.integer 0xffffffffffffffff))] := by
    refine .cons ?_ (.cons ?_ (.cons nofun .nil)) <;> decide
  have h : Exact (126 + 1) bounds := by
    refine .object ho fun m hm => ?_
    rcases List.mem_cons.mp hm with rfl | hm
    · exact .null
    rcases List.mem_cons.mp hm with rfl | hm
    · exact .integer ⟨by decide, by decide⟩
    · rw [List.mem_singleton.mp hm]
      exact .integer ⟨by decide, by decide⟩
  exact h

theorem plain_bounds : bounds.Plain := by
  refine .object (by decide) fun m hm => ?_
  rcases List.mem_cons.mp hm with rfl | hm
  · exact .null
  rcases List.mem_cons.mp hm with rfl | hm
  · exact .number
  · rw [List.mem_singleton.mp hm]
    exact .number

/-- What is kept and found again over one peer. -/
theorem getJson_loopback {text : String} {v : Json} :
    let w : World := { network := .peer [RemoteCache.resultResponse (.string text)] }
    ((live (.remote (.loopback "http"))).getJson (readValue maxDepth) "k" w).1 = .ok (some v) ↔
      Json.parse text = .ok v :=
  getJson_of_replies (.loopback "http") _ "k" (RemoteCache.exchange_loopback _ _ rfl rfl) rfl
    (CacheReply.replies_result .string .string)

/-- The bounds come back, and null as a value among them. -/
theorem getJson_of_setJson_bounds :
    let client := live (.remote (.loopback "http"))
    let request := (RemoteCache.loopback "http").request (.set "k" bounds.text (some 60))
    let reply := Utf8.bytes (Json.object [("result", .string bounds.text)]).chars
    let w : World := { network := .peer [⟨⟨200⟩, none, reply, .complete⟩] }
    (∃ more, (client.setJson "k" bounds (some 60) w).2.contacts =
      [] ++ .request request :: more) ∧
    (client.getJson (readValue maxDepth) "k" w).1 = .ok (some bounds) := by
  intro client request reply w
  obtain ⟨hsent, body, text, rest, hbody, hparse, hback⟩ :=
    getJson_of_setJson (.loopback "http") (.loopback "http") "k" (some 60) exact_bounds
  obtain ⟨more, hmore⟩ := hsent w _ rfl rfl
  have htext : text = bounds.text := by
    rw [RemoteCache.request_body] at hbody
    cases hbody
    rw [CacheCommand.parse_body] at hparse
    cases hparse
    rfl
  subst htext
  refine ⟨⟨more, hmore⟩, (hback w ⟨⟨200⟩, none, reply, .complete⟩ ?_ (by decide) ?_).mpr
    plain_bounds⟩
  · exact RemoteCache.exchange_loopback _ _ rfl rfl
  · exact CacheReply.replies_result .string .string

/-- An object that begins with the name of embedded texts does not come back: with another member it
is not read at all, and alone it is read for its text. -/
theorem getJson_of_setJson_embedded :
    let client := live (.remote (.loopback "http"))
    let reply (v : Json) := RemoteCache.resultResponse (.string v.text)
    let paired := Json.object [(embeddedName, .string "1"), ("a", .number (.integer 1))]
    let alone := Json.object [(embeddedName, .string "1")]
    (Exact maxDepth paired ∧
      (client.getJson (readValue maxDepth) "k" { network := .peer [reply paired] }).1 ≠
        .ok (some paired)) ∧
    Exact maxDepth alone ∧
      (client.getJson (readValue maxDepth) "k" { network := .peer [reply alone] }).1 =
        .ok (some (.number (.integer 1))) := by
  intro client reply paired alone
  have hpaired : Exact (126 + 1) paired := by
    refine .object (List.pairwise_pair.mpr (by decide)) fun m hm => ?_
    rcases List.mem_cons.mp hm with rfl | hm
    · exact .string
    · rw [List.mem_singleton.mp hm]
      exact .integer ⟨by decide, by decide⟩
  have halone : Exact (126 + 1) alone := by
    refine .object (List.pairwise_singleton _ _) fun m hm => ?_
    rw [List.mem_singleton.mp hm]
    exact .string
  refine ⟨⟨hpaired, fun h => ?_⟩, halone, getJson_loopback.mpr ?_⟩
  · have hplain : (Json.object [(embeddedName, .string "1"), ("a", .number (.integer 1))]).Plain :=
      hpaired.read_text_iff.mp (getJson_loopback.mp h)
    cases hplain with
    | object hn _ => exact hn rfl
  · exact read_embedding (v := .number (.integer 1)) (.integer ⟨by decide, by decide⟩) .number 126

end CacheClient

end Stagehand
