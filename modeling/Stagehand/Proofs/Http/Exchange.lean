import Stagehand.Http.Exchange

/-!
# What is sent in an exchange
A request without a tunnel reaches the peer as it is, and nothing is sent after it unless the
response leads on. A request through a tunnel goes no further than the tunnel.
-/

namespace Stagehand

/-! ### Responses -/

namespace Network

variable {r : Request}

theorem respond_peer_nil (h : r.url.scheme ≠ "https".toList) :
    (peer []).respond r = (some unprepared, [.request r], peer []) := by
  simp only [respond, if_neg h]

theorem respond_peer_cons (h : r.url.scheme ≠ "https".toList) (a : Response)
    (more : List Response) :
    (peer (a :: more)).respond r =
      (if a.delivery = .noResponse then none else some a, [.request r], peer more) := by
  simp only [respond, if_neg h]

/-- The place that a tunnel to a URL leads to. -/
def tunnelTo (u : Url) : Contact :=
  .tunnel (match u.host with
    | some h => String.ofList h.chars
    | none => "") (u.effectivePort.getD 0)

theorem respond_tunnel (h : r.url.scheme = "https".toList) (responses : List Response) :
    (peer responses).respond r = (none, [tunnelTo r.url], peer responses) := by
  simp only [respond, if_pos h]
  rfl

end Network

namespace Request

variable {r : Request}

/-! ### Attempts -/

theorem step_eq_onward_iff {a : Response} {again : Bool} {target : Url} :
    r.step a = .onward again target ↔ r.next? a = some (again, target) := by
  rw [step]
  constructor
  · intro h
    split at h
    · rename_i hn
      cases h
      exact hn
    · cases h
  · intro h
    rw [h]

theorem step_of_complete {a : Response} (hn : r.next? a = none) (hd : a.delivery = .complete) :
    r.step a = .done (.ok a) := by
  rw [step, hn]
  dsimp only
  rw [if_pos hd]

theorem next?_unprepared : r.next? Network.unprepared = none := rfl

/-- Where nobody can be reached nothing is sent, and the failure is about the URL of the request. -/
theorem exchange_unreachable (left : Nat) :
    r.exchange left .unreachable = (.error ⟨.sending, r.url⟩, [], .unreachable) := by
  cases left <;> rfl

/-- Without a tunnel a request is sent once, and only a response leads on from it. -/
theorem attempt_peer (h : r.url.scheme ≠ "https".toList) (responses : List Response) :
    (r.attempt (.peer responses)).2.1 = [.request r] ∧
      ∀ again target, (r.attempt (.peer responses)).1 = .onward again target →
        ∃ a, responses.head? = some a ∧ r.next? a = some (again, target) := by
  cases responses with
  | nil =>
    rw [attempt, Network.respond_peer_nil h]
    refine ⟨rfl, fun again target hs => ?_⟩
    replace hs : r.step Network.unprepared = .onward again target := hs
    have hn := step_eq_onward_iff.mp hs
    rw [next?_unprepared] at hn
    cases hn
  | cons a more =>
    rw [attempt, Network.respond_peer_cons h]
    by_cases hd : a.delivery = .noResponse
    · rw [if_pos hd]
      exact ⟨rfl, nofun⟩
    · rw [if_neg hd]
      exact ⟨rfl, fun again target hs => ⟨a, rfl, step_eq_onward_iff.mp hs⟩⟩

/-! ### Exchanges -/

/-- An attempt that comes to a result ends its exchange. -/
theorem exchange_of_done {n n' : Network} {made : List Contact}
    {result : Except ExchangeError Response} (left : Nat)
    (h : r.attempt n = (.done result, made, n')) : r.exchange left n = (result, made, n') := by
  cases left with
  | zero => rw [exchange, h]
  | succ left => rw [exchange, h]

/-- An exchange without a tunnel begins with the request itself. -/
theorem exchange_contacts (left : Nat) (h : r.url.scheme ≠ "https".toList)
    (responses : List Response) :
    ∃ more, (r.exchange left (.peer responses)).2.1 = .request r :: more ∧
      (more ≠ [] → ∃ a, responses.head? = some a ∧ r.next? a ≠ none) := by
  obtain ⟨hmade, honward⟩ := attempt_peer h responses
  cases left with
  | zero =>
    rw [exchange]
    split
    · rename_i ha
      rw [ha] at hmade
      exact ⟨[], hmade, nofun⟩
    · rename_i ha
      rw [ha] at hmade
      exact ⟨[], hmade, nofun⟩
  | succ left =>
    rw [exchange]
    split
    · rename_i ha
      rw [ha] at hmade
      exact ⟨[], hmade, nofun⟩
    · rename_i again target made n ha
      rw [ha] at hmade honward
      replace hmade : made = [.request r] := hmade
      subst hmade
      split
      · obtain ⟨a, hhead, hnext⟩ := honward again target rfl
        refine ⟨_, rfl, fun _ => ⟨a, hhead, ?_⟩⟩
        rw [hnext]
        nofun
      · exact ⟨[], rfl, nofun⟩

/-- An exchange through a tunnel is over with the tunnel. -/
theorem exchange_tunnel (left : Nat) (h : r.url.scheme = "https".toList)
    (responses : List Response) :
    r.exchange left (.peer responses) =
      (.error ⟨.sending, r.url⟩, [Network.tunnelTo r.url], .peer responses) := by
  apply exchange_of_done
  rw [attempt, Network.respond_tunnel h]

/-- A complete response that does not lead on is the result of the exchange. -/
theorem exchange_of_complete (left : Nat) (h : r.url.scheme ≠ "https".toList) {a : Response}
    (hn : r.next? a = none) (hd : a.delivery = .complete) (more : List Response) :
    r.exchange left (.peer (a :: more)) = (.ok a, [.request r], .peer more) := by
  apply exchange_of_done
  rw [attempt, Network.respond_peer_cons h, if_neg (by rw [hd]; decide)]
  dsimp only
  rw [step_of_complete hn hd]

/-- A response whose status sends nobody on does not lead on. -/
theorem next?_of_redirect? {a : Response} (h : a.status.redirect? = none) : r.next? a = none := by
  rw [next?, h]

end Request

end Stagehand
