import Stagehand.Cache.Client

/-!
# The cache provider
The provider makes the one client that everyone shares, when it is first asked for it. Where no
backend can be made the client is the fallback, and that is logged once. The decision is final.
-/

namespace Stagehand

/-- Makes a backend for a configuration; it is told how many attempts there were before. -/
abbrev Connector := (attempt : Nat) → CacheConfig → Except CacheError Backend

/-- The connector of the remote cache. -/
def Connector.remote : Connector := fun _ c => (RemoteCache.connect c).map .remote

/-- A provider: what it makes a client from, how often it tried, and the client once it is made. -/
structure CacheProvider where
  config : CacheConfig
  logger : Logger := .events
  connector : Connector := .remote
  attempts : Nat := 0
  client : Option CacheClient := none

namespace CacheProvider

/-- Where the events of the provider come from. -/
def target : String := "fanhub::cache::provider"

/-- What is logged when the fallback is used. -/
def fallbackWarning : String := "cache unavailable, using no-op client"

/-- Whether the client has been made. -/
def isInitialized (p : CacheProvider) : Bool := p.client.isSome

/-- The event of a client that was made. -/
def readyEvent (c : CacheConfig) : Event where
  target := target
  severity := .info
  message := "remote cache client ready"
  fields := [("endpoint", .words (c.redactedUrl.getD ""))]

/-- Makes a client. -/
def build (p : CacheProvider) (w : World) : CacheClient × World :=
  match p.connector p.attempts p.config with
  | .ok b => (.live b, w.report (readyEvent p.config))
  | .error e =>
    let context := Members.ofList [("error", Json.string e.message)]
    (.fallback, (w.log p.logger .warn fallbackWarning context).count .fallbacks)

/-- The client, made if it is asked for the first time. -/
def obtain (p : CacheProvider) (w : World) : CacheClient × CacheProvider × World :=
  match p.client with
  | some client => (client, p, w)
  | none =>
    let (client, w) := p.build w
    (client, { p with attempts := p.attempts + 1, client := some client }, w)

/-- The text of a provider for people. -/
def description (p : CacheProvider) : String :=
  let client := match p.client with
    | none => "None"
    | some client => "Some(" ++ client.description ++ ")"
  "CacheProvider \x7b config: " ++ p.config.description ++ ", client: " ++ client ++ ", .. \x7d"

end CacheProvider

end Stagehand
