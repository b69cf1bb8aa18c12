import Stagehand.Http.Exchange
import Stagehand.Json.Fault

/-!
# Cache errors
What can go wrong with the remote cache: its configuration, an exchange with it, or its reply.
-/

namespace Stagehand

/-- What went wrong with the remote cache. -/
inductive CacheError
  | missingUrl
  | missingToken
  | invalidUrl (e : UrlError)
  | unsupportedScheme (scheme : String)
  | invalidToken
  | transport (e : ExchangeError)
  | remote (command : String) (status : Status) (message : String)
  | unexpectedReply (command : String) (reply : String)
  | payload (e : Json.ReadError)

namespace CacheError

/-- The words for what went wrong. -/
def message : CacheError → String
  | missingUrl => "cache url is not configured"
  | missingToken => "cache token is not configured"
  | invalidUrl e => "invalid cache url: " ++ e.message
  | unsupportedScheme scheme => "unsupported cache url scheme `" ++ scheme ++ "`"
  | invalidToken => "cache token is not a valid header value"
  | transport e => "cache request failed: " ++ e.message
  | remote command status message =>
    "cache service rejected `" ++ command ++ "` (status " ++ toString status.code ++ "): " ++
      message
  | unexpectedReply command reply => "unexpected reply to `" ++ command ++ "`: " ++ reply
  | payload e => "cache payload could not be (de)serialized: " ++ e.message

end CacheError

end Stagehand
