import Stagehand.Proofs.Http.Exchange
import Stagehand.Proofs.Url.Shape

/-!
# Credentials in an exchange
Credentials in a URL take the place of a token and are removed from the URL, provided that they can
be read as text. An exchange looks at everything of its request but the authorization, which it only
passes on or drops.
-/

namespace Stagehand

/-! ### Texts of bytes -/

theorem Utf8.symbols_cons_ne_nil (b : UInt8) (bs : List UInt8) : symbols (b :: bs) ≠ [] := by
  rw [symbols]
  split <;> exact List.cons_ne_nil _ _

/-- The empty text has no bytes. -/
theorem Utf8.eq_nil_of_text? {bs : List UInt8} (h : text? bs = some "") : bs = [] := by
  cases bs with
  | nil => rfl
  | cons b bs =>
    obtain ⟨cs, hcs, hempty⟩ := Option.map_eq_some_iff.mp h
    obtain ⟨s, ss, hss⟩ := List.exists_cons_of_ne_nil (symbols_cons_ne_nil b bs)
    rw [hss, List.mapM_cons] at hcs
    obtain ⟨c, -, hcs⟩ := Option.bind_eq_some_iff.mp hcs
    obtain ⟨cs', -, hcs⟩ := Option.bind_eq_some_iff.mp hcs
    cases hcs
    cases String.ofList_eq_empty_iff.mp hempty

theorem Percent.decode_cons_ne_nil (c : Char) (cs : List Char) : decode (c :: cs) ≠ [] := by
  have happend {c : Char} (bs : List UInt8) : Utf8.bytes [c] ++ bs ≠ [] :=
    List.append_ne_nil_of_left_ne_nil (Utf8.bytes_cons_ne_nil c []) bs
  rw [decode.eq_def]
  split
  · rename_i h
    cases h
  · split
    · exact List.cons_ne_nil _ _
    · exact happend _
  · rename_i h
    cases h
    exact happend _

/-! ### Credentials of a URL -/

namespace Url

/-- User information in which the part that is needed can be read as text: the user name, and the
password where the user name is empty. -/
def ReadableUserinfo (u : Url) : Prop :=
  (Utf8.text? (Percent.decode u.username)).isSome ∧
    (u.username = [] → (Utf8.text? (Percent.decode u.password)).isSome)

instance (u : Url) : Decidable u.ReadableUserinfo := inferInstanceAs (Decidable (_ ∧ _))

end Url

theorem Percent.text?_decode_eq_empty_iff {cs : List Char} :
    Utf8.text? (decode cs) = some "" ↔ cs = [] := by
  constructor
  · intro h
    cases cs with
    | nil => rfl
    | cons c cs => exact absurd (Utf8.eq_nil_of_text? h) (decode_cons_ne_nil c cs)
  · rintro rfl
    rw [decode, Utf8.text?, Utf8.symbols]
    rfl

namespace Credentials

variable {u : Url}

/-- Credentials are found where there is user information that can be read. -/
theorem ofUrl?_eq_none_iff : ofUrl? u = none ↔ ¬(u.hasUserinfo = true ∧ u.ReadableUserinfo) := by
  rw [ofUrl?, Url.ReadableUserinfo]
  cases hname : Utf8.text? (Percent.decode u.username) with
  | none => simp
  | some name =>
    have hempty : name = "" ↔ u.username = [] := by
      rw [← Percent.text?_decode_eq_empty_iff, hname, Option.some.injEq]
    by_cases hu : u.username = []
    · by_cases hp : u.password = []
      · simp [hempty, hu, hp, Url.hasUserinfo]
      · simp [hempty, hu, hp, Url.hasUserinfo]
    · simp [hempty, hu, Url.hasUserinfo]

end Credentials

namespace Request

/-! ### Requests with credentials -/

variable {u : Url} {token userAgent body : String}

/-- A request for a URL without credentials carries the token. -/
theorem posting_of_none (h : Credentials.ofUrl? u = none) :
    posting u token userAgent body =
      ⟨.post, u, some (Credentials.bearer token), userAgent, some body⟩ := by
  simp only [posting, h]

/-- A request for a URL with credentials carries these instead. -/
theorem posting_of_some {name password : String}
    (h : Credentials.ofUrl? u = some (name, password)) :
    posting u token userAgent body =
      ⟨.post, u.withoutUserinfo, some (Credentials.basic name password), userAgent,
        some body⟩ := by
  simp only [posting, h]

/-! ### Exchanges without regard to the authorization -/

/-- A request without its authorization. -/
def withoutAuthorization (r : Request) : Request := { r with authorization := none }

/-- User information that can be read shows in nothing but the authorization of a request. -/
theorem posting_withoutAuthorization (h : u.ReadableUserinfo) :
    (posting u token userAgent body).withoutAuthorization =
      ⟨.post, u.withoutUserinfo, none, userAgent, some body⟩ := by
  cases hof : Credentials.ofUrl? u with
  | some pair =>
    rw [posting_of_some hof]
    rfl
  | none =>
    have hu : u.hasUserinfo = false := by
      rw [Credentials.ofUrl?_eq_none_iff] at hof
      exact Bool.eq_false_iff.mpr fun hu => hof ⟨hu, h⟩
    rw [posting_of_none hof, Url.withoutUserinfo_eq hu]
    rfl

end Request

/-- A contact without the authorization of its request. -/
def Contact.withoutAuthorization : Contact → Contact
  | request r => request r.withoutAuthorization
  | tunnel host port => tunnel host port

/-- Outcomes on the network that differ in nothing but the authorization of what was sent. -/
structure Contact.Alike {α : Type} (x y : α × List Contact × Network) : Prop where
  result : x.1 = y.1
  contacts : x.2.1.map withoutAuthorization = y.2.1.map withoutAuthorization
  network : x.2.2 = y.2.2

theorem Contact.Alike.elim {α : Type} {x y : α × List Contact × Network} (h : Alike x y) :
    ∃ a made made' n, x = (a, made, n) ∧ y = (a, made', n) ∧
      made.map withoutAuthorization = made'.map withoutAuthorization :=
  ⟨x.1, x.2.1, y.2.1, x.2.2, rfl,
    Prod.ext h.result.symm (Prod.ext rfl h.network.symm), h.contacts⟩

section Alike

variable {r r' : Request} (h : r.withoutAuthorization = r'.withoutAuthorization)

include h

theorem Request.url_eq : r.url = r'.url := by
  have hurl := congrArg Request.url h
  exact hurl

theorem Network.respond_alike (n : Network) : Contact.Alike (n.respond r) (n.respond r') := by
  have hmade : [Contact.request r].map Contact.withoutAuthorization =
      [Contact.request r'].map Contact.withoutAuthorization :=
    congrArg (fun q => [Contact.request q]) h
  cases n with
  | unreachable => exact ⟨rfl, rfl, rfl⟩
  | peer responses =>
    by_cases hs : r.url.scheme = "https".toList
    · rw [respond_tunnel hs, respond_tunnel (Request.url_eq h ▸ hs), Request.url_eq h]
      exact ⟨rfl, rfl, rfl⟩
    · have hs' : r'.url.scheme ≠ "https".toList := Request.url_eq h ▸ hs
      cases responses with
      | nil =>
        rw [respond_peer_nil hs, respond_peer_nil hs']
        exact ⟨rfl, hmade, rfl⟩
      | cons a more =>
        rw [respond_peer_cons hs, respond_peer_cons hs']
        exact ⟨rfl, hmade, rfl⟩

namespace Request

theorem step_eq (a : Response) : r.step a = r'.step a := by
  have hnext : r.next? a = r'.next? a := by
    rw [next?, next?, url_eq h]
  rw [step, step, hnext, url_eq h]

theorem attempt_alike (n : Network) : Contact.Alike (r.attempt n) (r'.attempt n) := by
  obtain ⟨response, made, made', m, hx, hx', hmade⟩ := (n.respond_alike h).elim
  rw [attempt, attempt, hx, hx']
  cases response with
  | none => exact ⟨by rw [url_eq h], hmade, rfl⟩
  | some a => exact ⟨step_eq h a, hmade, rfl⟩

theorem redirected_withoutAuthorization (again : Bool) (target : Url) :
    (r.redirected again target).withoutAuthorization =
      (r'.redirected again target).withoutAuthorization := by
  obtain ⟨method, url, authorization, userAgent, body⟩ := r
  obtain ⟨method', url', authorization', userAgent', body'⟩ := r'
  cases h
  rfl

end Request

end Alike

/-- Whatever is exchanged, the authorization of a request has no influence on it. -/
theorem Request.exchange_alike {r r' : Request}
    (h : r.withoutAuthorization = r'.withoutAuthorization) (left : Nat) (n : Network) :
    Contact.Alike (r.exchange left n) (r'.exchange left n) := by
  induction left generalizing r r' n with
  | zero =>
    obtain ⟨step, made, made', m, hx, hx', hmade⟩ := (attempt_alike h n).elim
    rw [exchange, exchange, hx, hx']
    cases step with
    | done result => exact ⟨rfl, hmade, rfl⟩
    | onward again target => exact ⟨by rw [url_eq h], hmade, rfl⟩
  | succ left ih =>
    obtain ⟨step, made, made', m, hx, hx', hmade⟩ := (attempt_alike h n).elim
    rw [exchange, exchange, hx, hx']
    cases step with
    | done result => exact ⟨rfl, hmade, rfl⟩
    | onward again target =>
      by_cases hweb : target.isWeb = true
      · have hrest := ih (redirected_withoutAuthorization h again target) m
        simp only [if_pos hweb]
        refine ⟨hrest.result, ?_, hrest.network⟩
        rw [List.map_append, List.map_append, hrest.contacts, hmade]
      · simp only [if_neg hweb]
        exact ⟨rfl, hmade, rfl⟩

end Stagehand
