import Stagehand.Proofs.Cache.Authorization
import Stagehand.Proofs.Cache.Reply
import Stagehand.Proofs.Http.Redirects

/-!
# Commands that are sent on
The service may send a command on to other places before it is answered. The authorization goes
along only as far as the host and the port stay those of the cache. The command itself goes along
only as far as the whole request is asked for again; the answer is taken from the last response
either way.
-/

namespace Stagehand

/-- A redirect that does not ask for the whole request again. -/
theorem Status.redirect?_eq_some_false_iff {s : Status} :
    s.redirect? = some false ↔ s.code ∈ [301, 302, 303] := by
  rw [redirect?, List.mem_cons, List.mem_cons, List.mem_singleton]
  split
  · rename_i h
    simp [h]
  · rename_i h
    split <;> simp [h]

namespace RemoteCache

variable (r : RemoteCache) (c : CacheCommand)

theorem request_host : (r.request c).url.host = r.url.host := by
  rcases r.request_url c with h | h
  · rw [h]
  · rw [h]
    rfl

theorem request_effectivePort : (r.request c).url.effectivePort = r.url.effectivePort := by
  rcases r.request_url c with h | h
  · rw [h]
  · rw [h]
    rfl

variable {r c} {w : World} {responses : List Response}

/-- What carrying out a command tries on the network goes along the chain of its request. -/
theorem exchanged_perform (hw : w.network = .peer responses) :
    ∃ made, ((CacheClient.live (.remote r)).perform c w).2.contacts = w.contacts ++ made ∧
      (r.request c).Exchanged ((r.request c).hops maxRedirects responses) made
        (Request.exchange maxRedirects (r.request c) w.network).1 := by
  refine ⟨_, perform_contacts, ?_⟩
  rw [hw]
  exact Request.exchanged maxRedirects (r.request c) responses

end RemoteCache

/-! ### A cache on the machine itself -/

/-- The cache on the machine itself, without user information in its URL. -/
def RemoteCache.local6 : RemoteCache := ⟨CacheConfig.localUrl "" "", "test-token"⟩

theorem RemoteCache.request_local6 (c : CacheCommand) : local6.request c =
    ⟨.post, CacheConfig.localUrl "" "", some "Bearer test-token", userAgent, some c.body⟩ := by
  apply Request.posting_of_none
  rw [Credentials.ofUrl?_eq_none_iff]
  rintro ⟨h, -⟩
  cases h

/-- A response that sends the client on. -/
def Response.redirect (code : Nat) (location : String) : Response where
  status := ⟨code⟩
  location := some location

/-- A response of success with a text as its result. -/
def Response.result (text : String) : Response where
  status := ⟨200⟩
  body := Utf8.bytes (Json.object [("result", .string text)]).chars

/-! ### Delivery -/

/-- A peer that sends the client on once, and then acknowledges. -/
def RemoteCache.sentOn (code : Nat) : World where
  network := .peer [.redirect code "/moved", .result "OK"]

theorem RemoteCache.perform_sentOn {code : Nat}
    (h : (Request.exchange maxRedirects (local6.request (.set "k" "v" none))
      (sentOn code).network).1 = .ok (.result "OK")) :
    ((CacheClient.live (.remote local6)).perform (.set "k" "v" none) (sentOn code)).1 =
      .ok (.value (some "OK")) := by
  apply perform_eq_ok_iff.mpr
  refine ⟨.string "OK", ?_, rfl⟩
  exact execute_eq_ok_iff.mpr ⟨_, h, by decide, CacheReply.replies_result .string .string⟩

/-- The last request in the chain of a command carries the command, unless an earlier response sent
the client on without asking for the whole request again; then it carries nothing of it. An answer
is read from the response to just that request. A chain that is led to a peer behind `https` ends
without an answer, since such a peer gives none here. -/
theorem RemoteCache.perform_delivers (r : RemoteCache) (c : CacheCommand) :
    (∀ responses before q a, (r.request c).hops maxRedirects responses = before ++ [⟨q, a⟩] →
      200 ≤ a.status.code ∧ a.status.code ≤ 299 →
      ((∀ k ∈ before, k.response.status.code ∉ [301, 302, 303]) →
        q.method = .post ∧ q.body = some c.body) ∧
      ((∃ k ∈ before, k.response.status.code ∈ [301, 302, 303]) →
        q.method = .get ∧ q.body = none)) ∧
    ∀ (w : World) (answer : CacheAnswer),
      ((CacheClient.live (.remote r)).perform c w).1 = .ok answer →
      ∃ responses before q a v, w.network = .peer responses ∧
        (r.request c).hops maxRedirects responses = before ++ [⟨q, a⟩] ∧
        ((CacheClient.live (.remote r)).perform c w).2.contacts =
          w.contacts ++ (before.map fun k => .request k.request) ++ [.request q] ∧
        (200 ≤ a.status.code ∧ a.status.code ≤ 299) ∧ CacheReply.Replies a.body v none ∧
        c.answer v = .ok answer := by
  constructor
  · intro responses before q a hchain hs
    have hlinked := Request.chain_hops maxRedirects (r.request c) responses
    rw [hchain] at hlinked
    constructor
    · intro hkeep
      have hlast : a.status.code ∉ [301, 302, 303] := by
        simp only [List.mem_cons, List.not_mem_nil, or_false]
        omega
      have hkept : ∀ k ∈ before ++ [⟨q, a⟩], k.response.status.redirect? ≠ some false := by
        intro k hk
        rw [ne_eq, Status.redirect?_eq_some_false_iff]
        rcases List.mem_append.mp hk with hk | hk
        · exact hkeep k hk
        · rw [List.mem_singleton.mp hk]
          exact hlast
      have hsame := hlinked.kept hkept _ List.mem_concat_self
      rwa [request_method, request_body] at hsame
    · rintro ⟨k, hk, hlost⟩
      have hpairs := List.pairwise_append.mp hlinked.pairwise_bare
      exact hpairs.2.2 k hk _ (List.mem_singleton_self _)
        (Status.redirect?_eq_some_false_iff.mpr hlost)
  · intro w answer h
    obtain ⟨v, hv, hanswer⟩ := perform_eq_ok_iff.mp h
    obtain ⟨a, ha, hs, hreply⟩ := execute_eq_ok_iff.mp hv
    cases hw : w.network with
    | unreachable =>
      rw [hw, Request.exchange_unreachable] at ha
      cases ha
    | peer responses =>
      obtain ⟨made, hcontacts, hexchanged⟩ := exchanged_perform (r := r) (c := c) hw
      rw [ha] at hexchanged
      obtain ⟨before, q, hchain, -, rfl⟩ := hexchanged.of_ok
      refine ⟨responses, before, q, a, v, rfl, hchain, ?_, hs, hreply, hanswer⟩
      rw [hcontacts, hchain, List.map_append, List.append_assoc]
      rfl

/-- A value that is set at another place is acknowledged from there. -/
theorem RemoteCache.perform_delivers_elsewhere :
    ∃ q, q.method = .post ∧ q.body = some (CacheCommand.set "k" "v" none).body ∧
      ((CacheClient.live (.remote local6)).perform (.set "k" "v" none)
        (sentOn 308)).2.contacts.getLast? = some (.request q) := by
  have hok : ((CacheClient.live (.remote local6)).perform (.set "k" "v" none) (sentOn 308)).1 =
      .ok (.value (some "OK")) := by
    apply perform_sentOn
    rw [request_local6]
    rfl
  obtain ⟨hlast, hanswered⟩ := perform_delivers local6 (.set "k" "v" none)
  obtain ⟨responses, before, q, a, v, hw, hchain, hcontacts, hs, -, -⟩ := hanswered _ _ hok
  cases hw
  have hcodes : ∀ k ∈ Request.hops maxRedirects (local6.request (.set "k" "v" none))
      [.redirect 308 "/moved", .result "OK"], k.response.status.code ∉ [301, 302, 303] := by
    rw [request_local6]
    decide +kernel
  rw [hchain] at hcodes
  have hbefore : ∀ k ∈ before, k.response.status.code ∉ [301, 302, 303] := by
    intro k hk
    exact hcodes k (List.mem_append_left _ hk)
  obtain ⟨hmethod, hbody⟩ := (hlast _ before q a hchain hs).1 hbefore
  exact ⟨q, hmethod, hbody, by rw [hcontacts, List.getLast?_concat]⟩

/-- A value that is acknowledged may never have been sent to where the acknowledgement comes
from. -/
theorem RemoteCache.perform_acknowledges_bare :
    ¬∀ (r : RemoteCache) (c : CacheCommand) (w : World) (answer : CacheAnswer) (q : Request),
      ((CacheClient.live (.remote r)).perform c w).1 = .ok answer →
        ((CacheClient.live (.remote r)).perform c w).2.contacts.getLast? = some (.request q) →
          q.method = .post ∧ q.body = some c.body := by
  intro h
  have hok : ((CacheClient.live (.remote local6)).perform (.set "k" "v" none) (sentOn 302)).1 =
      .ok (.value (some "OK")) := by
    apply perform_sentOn
    rw [request_local6]
    rfl
  have hlast : ((CacheClient.live (.remote local6)).perform (.set "k" "v" none)
      (sentOn 302)).2.contacts.getLast? =
        some (.request ⟨.get,
          { CacheConfig.localUrl "" "" with path := .segments ["moved".toList] },
          some "Bearer test-token", userAgent, none⟩) := by
    rw [perform_contacts, request_local6]
    rfl
  cases (h _ _ _ _ _ hok hlast).1

/-! ### Confinement -/

/-- Whatever responses a command gets, at most eleven requests are made for it. Those of them that
carry an authorization go to the host and the port of the cache, and after one that carries none no
other does. The chain is that of peers who all answer, be they behind `https` or not; those behind
`https` never do here, and what is made known is the chain up to the first of them. -/
theorem RemoteCache.perform_confines_authorization (r : RemoteCache) (c : CacheCommand)
    (responses : List Response) :
    let chain := ((r.request c).hops maxRedirects responses).map Hop.request
    chain.length ≤ 11 ∧
    (∀ q ∈ chain, q.authorization ≠ none → q.authorization = (r.request c).authorization ∧
      q.url.host = r.url.host ∧ q.url.effectivePort = r.url.effectivePort) ∧
    (chain.Pairwise fun q q' => q.authorization = none → q'.authorization = none) ∧
    ∀ w : World, w.network = .peer responses →
      ∃ made, ((CacheClient.live (.remote r)).perform c w).2.contacts = w.contacts ++ made ∧
        made.filterMap Contact.request? <+: chain := by
  intro chain
  have hlinked := Request.chain_hops maxRedirects (r.request c) responses
  refine ⟨?_, ?_, ?_, ?_⟩
  · rw [List.length_map]
    exact Request.length_hops_le maxRedirects (r.request c) responses
  · intro q hq hsome
    obtain ⟨k, hk, rfl⟩ := List.mem_map.mp hq
    obtain ⟨hfirst, hhost, hport⟩ := hlinked.authorized k hk hsome
    rw [request_host] at hhost
    rw [request_effectivePort] at hport
    exact ⟨hfirst, hhost, hport⟩
  · exact List.pairwise_map.mpr hlinked.pairwise_authorization
  · intro w hw
    obtain ⟨made, hcontacts, hexchanged⟩ := exchanged_perform (r := r) (c := c) hw
    exact ⟨made, hcontacts, hexchanged.requests_isPrefix⟩

/-- Responses that send the client to another host and back again. -/
def RemoteCache.roundTrip : List Response :=
  [.redirect 307 "http://[::2]:6380/", .redirect 307 "http://[::1]:6380/", .result "PONG"]

/-- A command that went to another host comes back without its authorization. -/
theorem RemoteCache.perform_confines_authorization_back :
    let first := local6.request .ping
    ∃ away back : Request,
      ((CacheClient.live (.remote local6)).perform .ping
        { network := .peer roundTrip }).2.contacts =
          [.request first, .request away, .request back] ∧
      first.authorization ≠ none ∧ first.url.host = local6.url.host ∧
      away.authorization = none ∧ back.authorization = none ∧ back.url = local6.url := by
  intro first
  let away : Request := ⟨.post, { local6.url with host := some (.ip6 [0, 0, 0, 0, 0, 0, 0, 2]) },
    none, userAgent, some (CacheCommand.body .ping)⟩
  let back : Request := ⟨.post, local6.url, none, userAgent, some (CacheCommand.body .ping)⟩
  have hchain : (first.hops maxRedirects roundTrip).map Hop.request = [first, away, back] := by
    simp only [first, request_local6]
    rfl
  have hmade : ((CacheClient.live (.remote local6)).perform .ping
      { network := .peer roundTrip }).2.contacts =
        [.request first, .request away, .request back] := by
    rw [perform_contacts]
    simp only [first, request_local6]
    rfl
  have hsome : first.authorization ≠ none := by
    simp only [first, request_local6]
    nofun
  obtain ⟨-, hhost, hlost, -⟩ := perform_confines_authorization local6 .ping roundTrip
  rw [hchain] at hhost hlost
  have hback := (List.pairwise_cons.mp (List.pairwise_cons.mp hlost).2).1
  exact ⟨away, back, hmade, hsome, (hhost first List.mem_cons_self hsome).2.1, rfl,
    hback back (List.mem_singleton_self _) rfl, rfl⟩

end Stagehand
