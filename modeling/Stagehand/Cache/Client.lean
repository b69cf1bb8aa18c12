import Stagehand.Cache.Backend

/-!
# The cache client
The client that callers hold. A live one hands every command to its backend; the fallback answers
at once, as a cache would that keeps nothing. Values of any type are kept as JSON texts.
-/

namespace Stagehand

/-- The client that callers hold. -/
inductive CacheClient
  | live (b : Backend)
  | fallback

namespace CacheClient

/-- What the fallback answers to a ping. -/
def fallbackPing : String := "noop"

/-- Whether there is a cache behind the client. -/
def enabled : CacheClient → Bool
  | live _ => true
  | fallback => false

/-- The text of a client for people. -/
def description : CacheClient → String
  | live _ => "CacheClient::Live"
  | fallback => "CacheClient::Fallback"

/-- What the fallback answers. -/
def fallbackAnswer : CacheCommand → CacheAnswer
  | .get _ => .value none
  | .set _ _ _ => .value none
  | .increment _ _ => .number 0
  | .ping => .word fallbackPing

/-- Carries a command out. -/
def perform (client : CacheClient) (c : CacheCommand) (w : World) :
    Except CacheError CacheAnswer × World :=
  match client with
  | live b => b.perform c w
  | fallback => (.ok (fallbackAnswer c), w)

/-- Reads a value from the JSON text that is kept for a key. -/
def getJson {α : Type} (client : CacheClient) (reader : Json.Reader α) (key : String) (w : World) :
    Except CacheError (Option α) × World :=
  match client.perform (.get key) w with
  | (.error e, w) => (.error e, w)
  | (.ok (.value (some text)), w) =>
    match Json.read reader text with
    | .ok a => (.ok (some a), w)
    | .error e => (.error (.payload e), w)
  | (.ok _, w) => (.ok none, w)

/-- Keeps a JSON text for a key. -/
def setText (client : CacheClient) (key text : String) (expiry : Option Nat) (w : World) :
    Except CacheError CacheAnswer × World :=
  client.perform (.set key text expiry) w

/-- Keeps a value of any type for a key. It may be one that has no JSON text. -/
def setSerialized (client : CacheClient) (key : String) (serialized : Except Json.ReadError String)
    (expiry : Option Nat) (w : World) : Except CacheError CacheAnswer × World :=
  match serialized with
  | .error e => (.error (.payload e), w)
  | .ok text => client.setText key text expiry w

/-- Keeps a value for a key, as its JSON text. -/
def setJson (client : CacheClient) (key : String) (v : Json) (expiry : Option Nat) (w : World) :
    Except CacheError CacheAnswer × World :=
  client.setSerialized key (.ok v.text) expiry w

end CacheClient

end Stagehand
