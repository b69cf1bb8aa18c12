import Stagehand.Proofs.Http.Exchange

/-!
# Chains of redirects
A client that is sent on makes a chain of requests, one for each response. An exchange goes along
this chain as far as its requests get through and are answered. On the way a request may lose its
body or its authorization, and it gets neither of them back.
-/

namespace Stagehand

/-- A request, and the response to it. -/
structure Hop where
  request : Request
  response : Response

namespace Request

/-! ### Chains -/

/-- A chain of requests, each of which the response to the one before leads on to. -/
inductive Chain : Request → List Hop → Prop
  | last (r : Request) (a : Response) : Chain r [⟨r, a⟩]
  | onward {r : Request} {a : Response} {again : Bool} {target : Url} {more : List Hop}
      (hnext : r.next? a = some (again, target)) (h : Chain (r.redirected again target) more) :
      Chain r (⟨r, a⟩ :: more)

/-- The chain of a request whose client follows at most `left` times, if every request in it gets
through. Where no response is left the peer responds as one that has nothing prepared. -/
def hops : (left : Nat) → Request → List Response → List Hop
  | 0, r, responses => [⟨r, responses.headD Network.unprepared⟩]
  | left + 1, r, responses =>
    let a := responses.headD Network.unprepared
    ⟨r, a⟩ :: match r.next? a with
      | some (again, target) =>
        if target.isWeb then hops left (r.redirected again target) responses.tail else []
      | none => []

theorem chain_hops (left : Nat) (r : Request) (responses : List Response) :
    r.Chain (r.hops left responses) := by
  induction left generalizing r responses with
  | zero => exact .last r _
  | succ left ih =>
    simp only [hops]
    split
    · rename_i again target hnext
      split
      · exact .onward hnext (ih _ _)
      · exact .last r _
    · exact .last r _

theorem length_hops_le (left : Nat) (r : Request) (responses : List Response) :
    (r.hops left responses).length ≤ left + 1 := by
  induction left generalizing r responses with
  | zero => simp [hops]
  | succ left ih =>
    simp only [hops]
    split
    · split
      · simp [ih]
      · simp
    · simp

theorem hops_eq_cons (left : Nat) (r : Request) (responses : List Response) :
    ∃ more, r.hops left responses = ⟨r, responses.headD Network.unprepared⟩ :: more := by
  cases left <;> exact ⟨_, rfl⟩

theorem hops_of_next?_eq_none {r : Request} {responses : List Response} (left : Nat)
    (h : r.next? (responses.headD Network.unprepared) = none) :
    r.hops left responses = [⟨r, responses.headD Network.unprepared⟩] := by
  cases left with
  | zero => rfl
  | succ left => simp only [hops, h]

/-! ### What is lost on the way -/

/-- A request that only asks to be shown something. -/
def Bare (q : Request) : Prop := q.method = .get ∧ q.body = none

theorem redirect?_of_next? {r : Request} {a : Response} {again : Bool} {target : Url}
    (h : r.next? a = some (again, target)) : a.status.redirect? = some again := by
  rw [next?] at h
  split at h
  · rename_i hstatus _
    split at h
    · cases h
      exact hstatus
    · cases h
  · cases h

theorem Bare.redirected {q : Request} (h : q.Bare) (again : Bool) (target : Url) :
    (q.redirected again target).Bare := by
  cases again with
  | false => exact ⟨rfl, rfl⟩
  | true => exact h

namespace Chain

variable {r : Request} {chain : List Hop}

/-- What holds of a request, and still holds after every redirect in its chain, holds along the
whole chain. -/
theorem all {P : Request → Prop} (h : r.Chain chain) (hr : P r)
    (hstep : ∀ k ∈ chain, ∀ again target, k.request.next? k.response = some (again, target) →
      P k.request → P (k.request.redirected again target)) :
    ∀ k ∈ chain, P k.request := by
  induction h with
  | last r a => simpa using hr
  | onward hnext h ih =>
    have hfirst := hstep _ List.mem_cons_self _ _ hnext hr
    intro k hk
    rcases List.mem_cons.mp hk with rfl | hk
    · exact hr
    · exact ih hfirst (fun k hk => hstep k (List.mem_cons_of_mem _ hk)) k hk

/-- As long as every redirect asks for the whole request again, method and body stay. -/
theorem kept (h : r.Chain chain) (hkeep : ∀ k ∈ chain, k.response.status.redirect? ≠ some false) :
    ∀ k ∈ chain, k.request.method = r.method ∧ k.request.body = r.body := by
  apply h.all (P := fun q => q.method = r.method ∧ q.body = r.body)
  · exact ⟨rfl, rfl⟩
  · intro k hk again target hnext hsame
    have hagain := redirect?_of_next? hnext
    cases again with
    | false => exact absurd hagain (hkeep k hk)
    | true => exact hsame

theorem bare (h : r.Chain chain) (hr : r.Bare) : ∀ k ∈ chain, k.request.Bare := by
  apply h.all hr
  intro k _ again target _ hk
  exact hk.redirected again target

/-- After a redirect that does not ask for the whole request again, all requests are bare. -/
theorem pairwise_bare (h : r.Chain chain) :
    chain.Pairwise fun k l => k.response.status.redirect? = some false → l.request.Bare := by
  induction h with
  | last r a => exact List.pairwise_singleton _ _
  | onward hnext h ih =>
    apply List.pairwise_cons.mpr
    refine ⟨?_, ih⟩
    intro l hl hlost
    have hagain := redirect?_of_next? hnext
    rw [hlost] at hagain
    cases hagain
    exact h.bare ⟨rfl, rfl⟩ l hl

/-- A request that still has an authorization has the one of the first request, and goes to the
same host and port. -/
theorem authorized (h : r.Chain chain) :
    ∀ k ∈ chain, k.request.authorization ≠ none →
      k.request.authorization = r.authorization ∧ k.request.url.host = r.url.host ∧
        k.request.url.effectivePort = r.url.effectivePort := by
  apply h.all (P := fun q => q.authorization ≠ none → q.authorization = r.authorization ∧
    q.url.host = r.url.host ∧ q.url.effectivePort = r.url.effectivePort)
  · intro _
    exact ⟨rfl, rfl, rfl⟩
  · intro k _ again target _ hk hsome
    by_cases horigin : sameOrigin k.request.url target = true
    · have hsame : (k.request.redirected again target).authorization = k.request.authorization :=
        if_pos horigin
      rw [hsame] at hsome ⊢
      obtain ⟨hauthorization, hhost, hport⟩ := hk hsome
      obtain ⟨hhost', hport'⟩ := of_decide_eq_true horigin
      exact ⟨hauthorization, hhost'.symm.trans hhost, hport'.symm.trans hport⟩
    · exact absurd (if_neg horigin) hsome

/-- An authorization that is lost does not come back. -/
theorem pairwise_authorization (h : r.Chain chain) :
    chain.Pairwise fun k l => k.request.authorization = none → l.request.authorization = none := by
  induction h with
  | last r a => exact List.pairwise_singleton _ _
  | onward hnext h ih =>
    apply List.pairwise_cons.mpr
    refine ⟨?_, ih⟩
    intro l hl hlost
    apply Classical.byContradiction
    intro hsome
    have hsame := ((onward hnext h).authorized l (List.mem_cons_of_mem _ hl) hsome).1
    exact hsome (hsame.trans hlost)

end Chain

end Request

/-! ### Exchanges along a chain -/

/-- The request of a contact, if it is one. -/
def Contact.request? : Contact → Option Request
  | request r => some r
  | tunnel _ _ => none

namespace Request

/-- How an exchange goes along a chain: what is tried on the network, and what comes of it. Nothing
is tried after a tunnel or after a response that is lost. -/
inductive Exchanged :
    Request → List Hop → List Contact → Except ExchangeError Response → Prop
  | tunnelled {r : Request} {chain : List Hop} (e : ExchangeError)
      (hs : r.url.scheme = "https".toList) :
      Exchanged r chain [Network.tunnelTo r.url] (.error e)
  | lost {r : Request} (a : Response) (more : List Hop) (e : ExchangeError) :
      Exchanged r (⟨r, a⟩ :: more) [.request r] (.error e)
  | answered {r : Request} {a : Response} (hnext : r.next? a = none)
      (hd : a.delivery = .complete) : Exchanged r [⟨r, a⟩] [.request r] (.ok a)
  | onward {r : Request} {a : Response} {again : Bool} {target : Url} {more : List Hop}
      {made : List Contact} {result : Except ExchangeError Response}
      (hnext : r.next? a = some (again, target))
      (h : Exchanged (r.redirected again target) more made result) :
      Exchanged r (⟨r, a⟩ :: more) (.request r :: made) result

/-- Without a tunnel the next response decides what an attempt comes to. -/
theorem attempt_open {r : Request} (h : r.url.scheme ≠ "https".toList)
    (responses : List Response) :
    let a := responses.headD Network.unprepared
    r.attempt (.peer responses) =
      (if a.delivery = .noResponse then .done (.error ⟨.sending, r.url⟩) else r.step a,
        [.request r], .peer responses.tail) := by
  cases responses with
  | nil =>
    rw [attempt, Network.respond_peer_nil h]
    rfl
  | cons a more =>
    rw [attempt, Network.respond_peer_cons h, List.headD_cons, List.tail_cons]
    by_cases hd : a.delivery = .noResponse
    · simp only [if_pos hd]
    · simp only [if_neg hd]

/-- A response that leads nowhere ends the chain. -/
theorem exchanged_last {r : Request} {a : Response} (hnext : r.next? a = none) :
    r.Exchanged [⟨r, a⟩] [.request r]
      (if a.delivery = .complete then .ok a else .error ⟨.reading, r.url⟩) := by
  by_cases hd : a.delivery = .complete
  · rw [if_pos hd]
    exact .answered hnext hd
  · rw [if_neg hd]
    exact .lost a [] _

/-- Every exchange with a peer goes along the chain of its request. -/
theorem exchanged (left : Nat) (r : Request) (responses : List Response) :
    r.Exchanged (r.hops left responses) (r.exchange left (.peer responses)).2.1
      (r.exchange left (.peer responses)).1 := by
  by_cases hs : r.url.scheme = "https".toList
  · rw [exchange_tunnel left hs]
    exact .tunnelled _ hs
  · have hattempt := attempt_open hs responses
    by_cases hd : (responses.headD Network.unprepared).delivery = .noResponse
    · obtain ⟨more, hmore⟩ := hops_eq_cons left r responses
      simp only [if_pos hd] at hattempt
      rw [exchange_of_done left hattempt, hmore]
      exact .lost _ _ _
    · simp only [if_neg hd, step] at hattempt
      cases hnext : r.next? (responses.headD Network.unprepared) with
      | none =>
        simp only [hnext] at hattempt
        rw [exchange_of_done left hattempt, hops_of_next?_eq_none left hnext]
        exact exchanged_last hnext
      | some onward =>
        simp only [hnext] at hattempt
        cases left with
        | zero =>
          simp only [exchange, hattempt]
          exact .lost _ _ _
        | succ left =>
          simp only [exchange, hattempt, hops, hnext]
          by_cases hweb : onward.2.isWeb = true
          · simp only [if_pos hweb]
            exact .onward hnext (exchanged left _ _)
          · simp only [if_neg hweb]
            exact .lost _ _ _

namespace Exchanged

variable {r : Request} {chain : List Hop} {made : List Contact}
  {result : Except ExchangeError Response}

/-- The requests that are made are the first ones of the chain. -/
theorem requests_isPrefix (h : r.Exchanged chain made result) :
    made.filterMap Contact.request? <+: chain.map Hop.request := by
  induction h with
  | tunnelled e hs => exact List.nil_prefix
  | lost a more e => simp [Contact.request?]
  | answered hnext hd => simp [Contact.request?]
  | onward hnext h ih => simpa [Contact.request?] using ih

/-- An exchange with a result has gone along the whole chain, and the result is the last response
in it. -/
theorem of_ok {a : Response} (h : r.Exchanged chain made (.ok a)) :
    ∃ before q, chain = before ++ [⟨q, a⟩] ∧ q.next? a = none ∧
      made = chain.map fun k => .request k.request := by
  generalize hresult : Except.ok a = result at h
  induction h with
  | tunnelled e hs => cases hresult
  | lost a more e => cases hresult
  | answered hnext hd =>
    cases hresult
    exact ⟨[], _, rfl, hnext, rfl⟩
  | onward hnext h ih =>
    obtain ⟨before, q, rfl, hlast, rfl⟩ := ih hresult
    exact ⟨_ :: before, q, rfl, hlast, rfl⟩

end Exchanged

end Request

end Stagehand
