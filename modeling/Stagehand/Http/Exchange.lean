import Stagehand.Http.Base64
import Stagehand.Http.Status
import Stagehand.Url.Parser

/-!
# Exchanges
A request and what becomes of it: the peer answers, or refuses to, and may send the client on to
another place. The client follows a limited number of times, repeats the whole request only where
it is told to, and takes its credentials along only as long as it stays with one host and port.
-/

namespace Stagehand

/-- What a request asks for: something to be done, or something to be shown. -/
inductive Method
  | post
  | get
deriving DecidableEq

/-- The name of a method. -/
def Method.name : Method → String
  | post => "POST"
  | get => "GET"

/-- A request. The body, if there is one, is a JSON text. -/
structure Request where
  method : Method
  url : Url
  authorization : Option String
  userAgent : String
  body : Option String

namespace Request

/-- What the client takes as an answer. -/
def accept : String := "*/*"

/-- The type of the body. -/
def contentType (r : Request) : Option String := r.body.map fun _ => "application/json"

end Request

/-- How far a response gets. -/
inductive Delivery
  | complete
  | noResponse
  | noBody
deriving DecidableEq

/-- A response, and how far it gets. -/
structure Response where
  status : Status
  location : Option String := none
  body : List UInt8 := []
  delivery : Delivery := .complete

/-- What a client tried in order to reach a peer: a request, or a tunnel for one. -/
inductive Contact
  | request (r : Request)
  | tunnel (host : String) (port : Nat)

/-- What lies behind the client: nothing that can be reached, or a peer with its responses in the
order in which it will give them. -/
inductive Network
  | unreachable
  | peer (responses : List Response)

namespace Network

/-- What a peer responds that has nothing prepared. -/
def unprepared : Response where
  status := ⟨503⟩
  body := Utf8.bytes "\x7b\"error\":\"no scripted reply\"\x7d".toList

/-- The next response to a request, and the peer after it. Behind `https` a peer never answers: it
is asked for a tunnel, which it refuses. What is said about responses is therefore said about plain
`http`. -/
def respond (n : Network) (r : Request) : Option Response × List Contact × Network :=
  match n with
  | unreachable => (none, [], unreachable)
  | peer responses =>
    if r.url.scheme = "https".toList then
      let host := match r.url.host with
        | some h => String.ofList h.chars
        | none => ""
      (none, [.tunnel host (r.url.effectivePort.getD 0)], peer responses)
    else
      match responses with
      | [] => (some unprepared, [.request r], peer [])
      | a :: more =>
        (if a.delivery = .noResponse then none else some a, [.request r], peer more)

end Network

/-! ### Failures -/

/-- Where an exchange broke off. -/
inductive ExchangeStage
  | sending
  | following
  | reading
deriving DecidableEq

/-- An exchange that broke off, and the URL that it was about. -/
structure ExchangeError where
  stage : ExchangeStage
  url : Url

/-- The words for how an exchange broke off. -/
def ExchangeError.message (e : ExchangeError) : String :=
  let what := match e.stage with
    | .sending => "error sending request for url ("
    | .following => "error following redirect for url ("
    | .reading => "error decoding response body for url ("
  what ++ e.url.text ++ ")"

/-! ### Credentials -/

namespace Credentials

/-- A token as a header. -/
def bearer (token : String) : String := "Bearer " ++ token

/-- A user name and a password as a header. -/
def basic (username password : String) : String :=
  "Basic " ++ String.ofList (Base64.encode
    (Utf8.bytes (username.toList ++ ':' :: password.toList)))

/-- The user name and the password in a URL, decoded, if there is one of them. A user name that is
no text hides both, and a password that is no text counts as missing. -/
def ofUrl? (u : Url) : Option (String × String) :=
  match Utf8.text? (Percent.decode u.username) with
  | none => none
  | some name =>
    let password :=
      if u.password = [] then none else Utf8.text? (Percent.decode u.password)
    if name = "" ∧ password = none then none else some (name, password.getD "")

end Credentials

/-! ### Requests and redirects -/

/-- How often a client follows. -/
def maxRedirects : Nat := 10

/-- Whether a status sends the client on, and whether to repeat the request there. -/
def Status.redirect? (s : Status) : Option Bool :=
  if s.code = 301 ∨ s.code = 302 ∨ s.code = 303 then some false
  else if s.code = 307 ∨ s.code = 308 then some true
  else none

namespace Request

/-- A request that posts a JSON text under a token. Credentials in the URL take the token's place
and are removed from it. -/
def posting (url : Url) (token userAgent body : String) : Request :=
  match Credentials.ofUrl? url with
  | some (name, password) =>
    ⟨.post, url.withoutUserinfo, some (Credentials.basic name password), userAgent, some body⟩
  | none => ⟨.post, url, some (Credentials.bearer token), userAgent, some body⟩

/-- Whether two URLs lead to the same host and port. -/
def sameOrigin (a b : Url) : Bool := a.host = b.host ∧ a.effectivePort = b.effectivePort

/-- The request after a redirect. -/
def redirected (r : Request) (again : Bool) (target : Url) : Request where
  method := if again then r.method else .get
  url := target
  authorization := if sameOrigin r.url target then r.authorization else none
  userAgent := r.userAgent
  body := if again then r.body else none

/-- Where a response sends the client on to, and whether to repeat the request there. -/
def next? (r : Request) (a : Response) : Option (Bool × Url) :=
  match a.status.redirect?, a.location with
  | some again, some location =>
    match r.url.resolve location with
    | .ok target => some (again, target)
    | .error _ => none
  | _, _ => none

/-- What one attempt comes to: a result, or another request to make. -/
inductive Step
  | done (result : Except ExchangeError Response)
  | onward (again : Bool) (target : Url)

/-- What a response comes to. -/
def step (r : Request) (a : Response) : Step :=
  match r.next? a with
  | some (again, target) => .onward again target
  | none =>
    .done (if a.delivery = .complete then .ok a else .error ⟨.reading, r.url⟩)

/-- Sends a request once. A transport may refuse a URL before anything is sent, as it does where the
host has a double quote, a backquote or a brace in it; here such a request is sent like any
other. -/
def attempt (r : Request) (n : Network) : Step × List Contact × Network :=
  match n.respond r with
  | (none, made, n) => (.done (.error ⟨.sending, r.url⟩), made, n)
  | (some a, made, n) => (r.step a, made, n)

/-- Sends a request, follows redirects at most `left` times, and reads the response. -/
def exchange : (left : Nat) → Request → Network →
    Except ExchangeError Response × List Contact × Network
  | 0, r, n =>
    match r.attempt n with
    | (.done result, made, n) => (result, made, n)
    | (.onward _ _, made, n) => (.error ⟨.following, r.url⟩, made, n)
  | left + 1, r, n =>
    match r.attempt n with
    | (.done result, made, n) => (result, made, n)
    | (.onward again target, made, n) =>
      if target.isWeb then
        let (result, more, n) := exchange left (r.redirected again target) n
        (result, made ++ more, n)
      else (.error ⟨.sending, target⟩, made, n)

end Request

end Stagehand
