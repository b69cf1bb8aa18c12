import Stagehand.Cache.Config
import Stagehand.Cache.Reply
import Stagehand.World

/-!
# Cache backends
What carries commands out: the remote cache, which is reached by requests and whose work is counted
and reported, a shelf in memory, or anything else that answers commands.
-/

namespace Stagehand

/-- The name under which the client makes requests. -/
def userAgent : String := "fanhub/0.1.0"

/-! ### The remote cache -/

/-- A remote cache that can be asked: its URL and the token for it. -/
structure RemoteCache where
  url : Url
  token : String
deriving DecidableEq

namespace RemoteCache

/-- Where the events of the remote cache come from. -/
def target : String := "fanhub::cache::remote"

/-- Whether a byte may stand in the value of a header. -/
def inHeader (b : UInt8) : Bool := b = 9 ∨ (32 ≤ b ∧ b ≠ 127)

/-- Whether a token can be sent. -/
def isToken (token : String) : Bool := (Utf8.bytes token.toList).all inHeader

/-- The remote cache of a configuration. No request is made. -/
def connect (c : CacheConfig) : Except CacheError RemoteCache :=
  match c.url with
  | none => .error .missingUrl
  | some text =>
    match Url.parse text with
    | .error e => .error (.invalidUrl e)
    | .ok url =>
      if url.isWeb then
        match c.token.filter (· ≠ "") with
        | none => .error .missingToken
        | some token => if isToken token then .ok ⟨url, token⟩ else .error .invalidToken
      else .error (.unsupportedScheme (String.ofList url.scheme))

/-- The request for a command. -/
def request (r : RemoteCache) (c : CacheCommand) : Request :=
  .posting r.url r.token userAgent c.body

/-- Sends a command and reads the result. -/
def send (r : RemoteCache) (c : CacheCommand) (w : World) : Except CacheError Json × World :=
  let (result, made, network) := Request.exchange maxRedirects (r.request c) w.network
  let w := { w with network := network, contacts := w.contacts ++ made }
  match result with
  | .error e => (.error (.transport e), w)
  | .ok response => (CacheCommand.classify c.name response.status response.body, w)

/-- The event of a command that failed. -/
def failureEvent (command : String) (e : CacheError) : Event where
  target := target
  severity := .debug
  message := "remote cache command failed"
  fields := [("command", .text command), ("error", .words e.message)]

/-- Sends a command, counts it, and reports if it failed. -/
def execute (r : RemoteCache) (c : CacheCommand) (w : World) : Except CacheError Json × World :=
  let (result, w) := r.send c w
  let w := (w.count (.commands c.name)).count (.commandTimes c.name)
  match result with
  | .ok v => (.ok v, w)
  | .error e => (.error e, (w.count (.commandErrors c.name)).report (failureEvent c.name e))

/-- Carries a command out. -/
def perform (r : RemoteCache) (c : CacheCommand) (w : World) :
    Except CacheError CacheAnswer × World :=
  match r.execute c w with
  | (.ok v, w) => (c.answer v, w)
  | (.error e, w) => (.error e, w)

end RemoteCache

/-! ### The shelf -/

namespace Shelf

/-- How a command is remembered. -/
def callOf : CacheCommand → String
  | .get key => "get " ++ key
  | .set key value expiry =>
    let seconds := match expiry with
      | some n => String.ofList (Numeral.ofNat n)
      | none => "none"
    "set " ++ key ++ " " ++ value ++ " " ++ seconds
  | .increment key amount => "increment " ++ key ++ " " ++ String.ofList (Numeral.ofInt amount)
  | .ping => "ping"

/-- Carries a command out. The key does not matter, and nothing ever fails. -/
def perform (s : Shelf) (c : CacheCommand) : CacheAnswer × Shelf :=
  let s := { s with calls := s.calls ++ [callOf c] }
  match c with
  | .get _ => (.value s.value, s)
  | .set _ value _ => (.value (some "OK"), { s with value := some value })
  | .increment _ amount => (.number amount, s)
  | .ping => (.word "PONG", s)

end Shelf

/-! ### Backends -/

/-- What carries commands out. A backend of any other kind answers them in its own way, and may use
the network for that. -/
inductive Backend
  | remote (r : RemoteCache)
  | shelf
  | other (answer : CacheCommand → Network → Except CacheError CacheAnswer × Network)

/-- Carries a command out. -/
def Backend.perform (b : Backend) (c : CacheCommand) (w : World) :
    Except CacheError CacheAnswer × World :=
  match b with
  | remote r => r.perform c w
  | shelf =>
    let (answer, s) := w.shelf.perform c
    (.ok answer, { w with shelf := s })
  | other answer =>
    let (result, network) := answer c w.network
    (result, { w with network := network })

end Stagehand
