import Stagehand.Cache.Config
import Stagehand.Log.Line
import Stagehand.Settings.Supplied
import Stagehand.Text.Blank

/-!
# Settings
What the program is set to do, once everything that the sources supply makes sense. The URL and
the token of the cache are not looked at here: a wrong one leads to the fallback later on.
-/

namespace Stagehand

/-- What is logged, and how. -/
structure LoggingSettings where
  level : Verbosity := .info
  format : LogFormat := .compact
deriving DecidableEq

/-- Where the cache is, and how long a request to it may take. -/
structure CacheSettings where
  url : Option String := none
  token : Option String := none
  timeout : Span := .ofMillis 2000
deriving DecidableEq

namespace CacheSettings

/-- The text of the settings for people, without the token. -/
def description (s : CacheSettings) : String :=
  "CacheSettings \x7b url: " ++ quotedOption s.url ++
    ", token: " ++ quotedOption (CacheConfig.redacted s.token) ++
    ", request_timeout: " ++ s.timeout.text ++ " \x7d"

/-- The configuration of the cache. -/
def config (s : CacheSettings) : CacheConfig := ⟨s.url, s.token, s.timeout⟩

end CacheSettings

/-- All settings. -/
structure Settings where
  logging : LoggingSettings := {}
  cache : CacheSettings := {}
deriving DecidableEq

namespace Settings

/-- A setting that makes no sense, and why. -/
structure Invalid where
  field : Field
  reason : String
deriving DecidableEq

/-- The words for a setting that makes no sense. -/
def Invalid.message (e : Invalid) : String :=
  "invalid configuration for `" ++ e.field.key ++ "`: " ++ e.reason

/-- How long a request takes at most, in milliseconds, if no source says so. -/
def defaultTimeoutMs : Nat := 2000

/-- The logging that the supplied settings ask for. -/
def loggingOf (s : Supplied) : Except Invalid LoggingSettings :=
  let format : LogFormat := if s.json.getD false then .json else .compact
  match s.level with
  | none => .ok { format }
  | some text =>
    match Verbosity.ofText? text with
    | some level => .ok { level, format }
    | none => .error ⟨.level, "failed to parse: " ++ Verbosity.unknownMessage⟩

/-- The cache that the supplied settings name. A blank URL or token counts as missing. -/
def cacheOf (s : Supplied) : Except Invalid CacheSettings :=
  let ms := s.timeoutMs.getD defaultTimeoutMs
  if ms = 0 then .error ⟨.timeout, "must be greater than zero"⟩
  else .ok ⟨s.url.bind nonBlank, s.token.bind nonBlank, .ofMillis ms⟩

/-- The settings, if what is supplied makes sense. The level is looked at first. -/
def ofSupplied (s : Supplied) : Except Invalid Settings :=
  match loggingOf s with
  | .error e => .error e
  | .ok logging =>
    match cacheOf s with
    | .error e => .error e
    | .ok cache => .ok { logging, cache }

end Settings

end Stagehand
