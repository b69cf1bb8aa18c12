import Stagehand.Text.Quoted
import Stagehand.Time.Span
import Stagehand.Url.Parser

/-!
# Configuration of the cache
Where the remote cache is and how to be let in. People are shown neither the token nor the user
information of the URL.
-/

namespace Stagehand

/-- The address of the remote cache, the token for it, and how long a request may take. -/
structure CacheConfig where
  url : Option String := none
  token : Option String := none
  timeout : Span := .ofMillis 2000
deriving DecidableEq

namespace CacheConfig

/-- The URL for people, if there is one that can be read and stripped. -/
def redactedUrl (c : CacheConfig) : Option String :=
  match c.url with
  | none => none
  | some text =>
    match Url.parse text with
    | .ok u => u.stripped?.map Url.text
    | .error _ => none

/-- What stands for a secret. -/
def redacted (secret : Option String) : Option String := secret.map fun _ => "<redacted>"

/-- The text of a configuration for people. -/
def description (c : CacheConfig) : String :=
  "CacheConfig \x7b url: " ++ quotedOption c.redactedUrl ++
    ", token: " ++ quotedOption (redacted c.token) ++
    ", request_timeout: " ++ c.timeout.text ++ " \x7d"

end CacheConfig

end Stagehand
