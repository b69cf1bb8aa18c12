import Stagehand.Cache.Client
import Stagehand.Proofs.Http.Exchange
import Stagehand.Proofs.Json.RoundTrip

/-!
# Commands on their way
A command is sent in a body from which it can be told again with all that it is about. The first
thing that carrying it out makes known to anyone is the request with that body.
-/

namespace Stagehand

/-! ### Bodies -/

namespace CacheCommand

/-- The text of a value that is a string. -/
def wordOf? : Json → Option String
  | .string text => some text
  | _ => none

/-- The command of a body: of the strings in an array. -/
def ofBody? (body : String) : Option CacheCommand :=
  match Json.parse body with
  | .ok (.array vs) => (vs.mapM wordOf?).bind ofWords?
  | _ => none

/-- The words of a command are told from each other by their places alone. -/
@[simp] theorem ofWords?_words (c : CacheCommand) : ofWords? c.words = some c := by
  cases c with
  | get key => rfl
  | set key value expiry =>
    cases expiry with
    | none => rfl
    | some seconds =>
      rw [words, name, arguments, ofWords?, String.toList_ofList, Numeral.digits?_ofNat]
      rfl
  | increment key amount =>
    rw [words, name, arguments, ofWords?, String.toList_ofList, Numeral.integer?_ofInt]
    rfl
  | ping => rfl

/-- Numbers are sent in their usual decimal form. -/
theorem words_eq (c : CacheCommand) :
    c.words = match c with
      | get key => ["GET", key]
      | set key value none => ["SET", key, value]
      | set key value (some seconds) => ["SET", key, value, "EX", toString seconds]
      | increment key amount => ["INCRBY", key, toString amount]
      | ping => ["PING"] := by
  cases c with
  | get key => rfl
  | set key value expiry =>
    cases expiry with
    | none => rfl
    | some seconds => rfl
  | increment key amount => rw [words, name, arguments, Numeral.ofList_ofInt]
  | ping => rfl

/-- A body is the array of the command's words. -/
@[simp] theorem parse_body (c : CacheCommand) :
    Json.parse c.body = .ok (.array (c.words.map .string)) := by
  have h : Json.Exact (126 + 1) (.array (c.words.map .string)) := by
    refine .array fun v hv => ?_
    obtain ⟨text, -, rfl⟩ := List.mem_map.mp hv
    exact .string
  have hp : (Json.array (c.words.map .string)).Plain := by
    refine .array fun v hv => ?_
    obtain ⟨text, -, rfl⟩ := List.mem_map.mp hv
    exact .string
  exact h.read_text hp

theorem mapM_wordOf? (words : List String) :
    (words.map Json.string).mapM wordOf? = some words := by
  induction words with
  | nil => rfl
  | cons text words ih =>
    rw [List.map_cons, List.mapM_cons, ih]
    rfl

/-- A command is told from its body. -/
@[simp] theorem ofBody?_body (c : CacheCommand) : ofBody? c.body = some c := by
  rw [ofBody?, parse_body]
  dsimp only
  rw [mapM_wordOf?]
  exact ofWords?_words c

theorem body_injective {c d : CacheCommand} (h : c.body = d.body) : c = d := by
  have hd := ofBody?_body d
  rw [← h, ofBody?_body c] at hd
  exact Option.some.inj hd

end CacheCommand

/-! ### Requests -/

namespace RemoteCache

variable (r : RemoteCache) (c : CacheCommand)

@[simp] theorem request_method : (r.request c).method = .post := by
  rw [request, Request.posting]
  split <;> rfl

@[simp] theorem request_body : (r.request c).body = some c.body := by
  rw [request, Request.posting]
  split <;> rfl

/-- A request goes to the URL of the cache, and may leave out only the user information. -/
theorem request_url :
    (r.request c).url = r.url ∨ (r.request c).url = r.url.withoutUserinfo := by
  rw [request, Request.posting]
  split
  · exact .inr rfl
  · exact .inl rfl

@[simp] theorem request_scheme : (r.request c).url.scheme = r.url.scheme := by
  rcases r.request_url c with h | h
  · rw [h]
  · rw [h]
    rfl

theorem tunnelTo_request_url :
    Network.tunnelTo (r.request c).url = Network.tunnelTo r.url := by
  rcases r.request_url c with h | h
  · rw [h]
  · rw [h]
    rfl

/-! ### What a command consists of -/

/-- A command is sent, counted and timed; if it failed that is counted and reported too. -/
theorem execute_eq (w : World) :
    let sent := ((r.send c w).2.count (.commands c.name)).count (.commandTimes c.name)
    r.execute c w = ((r.send c w).1, match (r.send c w).1 with
      | .ok _ => sent
      | .error e => (sent.count (.commandErrors c.name)).report (failureEvent c.name e)) := by
  simp only [execute]
  split
  · rename_i h
    rw [h]
  · rename_i h
    rw [h]

theorem perform_eq (w : World) :
    r.perform c w = ((r.execute c w).1.bind c.answer, (r.execute c w).2) := by
  rw [perform]
  split
  · rename_i h
    rw [h]
    rfl
  · rename_i h
    rw [h]
    rfl

/-! ### Contacts -/

section Contacts

variable {r c} {w : World} {responses : List Response}

/-- What carrying out a command tries on the network is what its exchange tries. -/
theorem perform_contacts :
    ((CacheClient.live (.remote r)).perform c w).2.contacts =
      w.contacts ++ (Request.exchange maxRedirects (r.request c) w.network).2.1 := by
  have hsend : (r.send c w).2.contacts =
      w.contacts ++ (Request.exchange maxRedirects (r.request c) w.network).2.1 := by
    simp only [send]
    split <;> rfl
  rw [← hsend, CacheClient.perform, Backend.perform, perform_eq, execute_eq]
  cases (r.send c w).1 with
  | ok v => rfl
  | error e => rfl

/-- The first contact is the request itself, and there is another only if the response leads on. -/
theorem perform_contacts_open (hw : w.network = .peer responses)
    (hs : r.url.scheme = "http".toList) :
    ∃ more, ((CacheClient.live (.remote r)).perform c w).2.contacts =
        w.contacts ++ .request (r.request c) :: more ∧
      (more ≠ [] → ∃ a, responses.head? = some a ∧ (r.request c).next? a ≠ none) := by
  have hopen : (r.request c).url.scheme ≠ "https".toList := by
    rw [request_scheme, hs]
    decide
  obtain ⟨more, hmore, hnext⟩ :=
    Request.exchange_contacts maxRedirects hopen responses
  exact ⟨more, by rw [perform_contacts, hw, hmore], hnext⟩

theorem perform_contacts_tunnel (hw : w.network = .peer responses)
    (hs : r.url.scheme = "https".toList) :
    ((CacheClient.live (.remote r)).perform c w).2.contacts =
      w.contacts ++ [Network.tunnelTo r.url] := by
  have htunnel : (r.request c).url.scheme = "https".toList := by
    rw [request_scheme, hs]
  rw [perform_contacts, hw, Request.exchange_tunnel _ htunnel, tunnelTo_request_url]

end Contacts

end RemoteCache

/-- Carrying out a command first posts one request to the endpoint. Its body is the array of the
command's words, from which the command is told again, so that no two commands share a body. A
second request follows only where the response leads on. Under a secure scheme the request stays
within a tunnel to the endpoint. -/
theorem RemoteCache.perform_posts_command (r : RemoteCache) (c : CacheCommand) :
    (r.request c).method = .post ∧
    ((r.request c).url = r.url ∨ (r.request c).url = r.url.withoutUserinfo) ∧
    (∃ text, (r.request c).body = some text ∧
      Json.parse text = .ok (.array ((match c with
        | .get key => ["GET", key]
        | .set key value none => ["SET", key, value]
        | .set key value (some seconds) => ["SET", key, value, "EX", toString seconds]
        | .increment key amount => ["INCRBY", key, toString amount]
        | .ping => ["PING"]).map .string)) ∧
      CacheCommand.ofBody? text = some c) ∧
    (∀ (q : RemoteCache) (d : CacheCommand), (q.request d).body = (r.request c).body → d = c) ∧
    ∀ (w : World) (responses : List Response), w.network = .peer responses →
      (r.url.scheme = "http".toList →
        ∃ more, ((CacheClient.live (.remote r)).perform c w).2.contacts =
            w.contacts ++ .request (r.request c) :: more ∧
          (more ≠ [] → ∃ a, responses.head? = some a ∧ (r.request c).next? a ≠ none)) ∧
      (r.url.scheme = "https".toList →
        ((CacheClient.live (.remote r)).perform c w).2.contacts =
          w.contacts ++ [Network.tunnelTo r.url]) := by
  refine ⟨r.request_method c, r.request_url c, ⟨c.body, r.request_body c, ?_, c.ofBody?_body⟩,
    ?_, ?_⟩
  · rw [← c.words_eq]
    exact c.parse_body
  · intro q d h
    rw [request_body, request_body] at h
    exact CacheCommand.body_injective (Option.some.inj h)
  · intro w responses hw
    exact ⟨perform_contacts_open hw, perform_contacts_tunnel hw⟩

/-- A cache on the machine itself. -/
def RemoteCache.loopback (scheme : String) : RemoteCache where
  url := { scheme := scheme.toList, host := some (.name "localhost".toList),
           path := .segments [[]] }
  token := "test-token"

/-- The least amount is sent as it is, in the open as well as to a tunnel. -/
theorem RemoteCache.perform_posts_command_loopback :
    let c : CacheCommand := .increment "credits" (-0x8000000000000000)
    let w : World := { network := .peer [⟨⟨200⟩, none, [], .complete⟩] }
    (((loopback "https").request c).body = ((loopback "http").request c).body ∧ c = c) ∧
    (∃ more, ((CacheClient.live (.remote (loopback "http"))).perform c w).2.contacts =
      [] ++ .request ((loopback "http").request c) :: more) ∧
    ((CacheClient.live (.remote (loopback "https"))).perform c w).2.contacts =
      [] ++ [Network.tunnelTo (loopback "https").url] := by
  intro c w
  obtain ⟨-, -, -, hinj, hopen⟩ := perform_posts_command (loopback "http") c
  obtain ⟨-, -, -, -, htunnel⟩ := perform_posts_command (loopback "https") c
  have hbody : ((loopback "https").request c).body = ((loopback "http").request c).body := by
    rw [request_body, request_body]
  obtain ⟨more, hmore, -⟩ := (hopen w _ rfl).1 rfl
  exact ⟨⟨hbody, hinj _ c hbody⟩, ⟨more, hmore⟩, (htunnel w _ rfl).2 rfl⟩

end Stagehand
