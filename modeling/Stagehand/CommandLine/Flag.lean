import Stagehand.Role

/-!
# Flags
The flags of the command line, and where each of them may stand: before the subcommand, after it,
or both.
-/

namespace Stagehand.CommandLine

/-- A flag that takes a value. -/
inductive Flag
  | configFile
  | logLevel
  | logJson
  | cacheUrl
  | cacheToken
  | timeout
  | role
  | tenant
  | user
  | minimum
  | allowed
deriving DecidableEq

namespace Flag

/-- The name of a flag. -/
def name : Flag → String
  | configFile => "config-file"
  | logLevel => "log-level"
  | logJson => "log-json"
  | cacheUrl => "cache-url"
  | cacheToken => "cache-token"
  | timeout => "cache-request-timeout-ms"
  | role => "role"
  | tenant => "tenant"
  | user => "user"
  | minimum => "minimum"
  | allowed => "allowed"

/-- What stands for the value of a flag. -/
def placeholder : Flag → String
  | configFile => "PATH"
  | logLevel => "LEVEL"
  | logJson => "BOOL"
  | cacheUrl => "URL"
  | cacheToken => "TOKEN"
  | timeout => "MILLIS"
  | role => "ROLE"
  | tenant => "TENANT"
  | user => "USER"
  | minimum => "ROLE"
  | allowed => "ROLE"

/-- How a flag is used. -/
def usage (f : Flag) : String := "--" ++ f.name ++ " <" ++ f.placeholder ++ ">"

/-- The flags that override a setting. -/
def overrides : List Flag := [logLevel, logJson, cacheUrl, cacheToken, timeout]

end Flag

/-- Where an argument stands: before any subcommand, or after one. -/
inductive Level
  | program
  | ping
  | checkRole
deriving DecidableEq

namespace Level

/-- The flags that may stand at a level. -/
def flags : Level → List Flag
  | program => .configFile :: Flag.overrides
  | ping => Flag.overrides
  | checkRole => [.role, .tenant, .user, .minimum, .allowed] ++ Flag.overrides

/-- The flag of a name at a level. -/
def flag? (l : Level) (name : String) : Option Flag := l.flags.find? fun f => f.name = name

end Level

/-- The level of a subcommand. -/
def subcommand? (word : String) : Option Level :=
  if word = "ping" then some .ping else if word = "check-role" then some .checkRole else none

end Stagehand.CommandLine
