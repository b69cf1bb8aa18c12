import Stagehand.Json.Printer

/-!
# Cache commands
A command is sent as a JSON array of words: its name, what it is about, and its options. Numbers
are words in decimal.
-/

namespace Stagehand

/-- A command to the cache. A value that is set may expire after some seconds. -/
inductive CacheCommand
  | get (key : String)
  | set (key value : String) (expiry : Option Nat)
  | increment (key : String) (amount : Int)
  | ping
deriving DecidableEq

namespace CacheCommand

/-- The name of a command. -/
def name : CacheCommand → String
  | get _ => "GET"
  | set _ _ _ => "SET"
  | increment _ _ => "INCRBY"
  | ping => "PING"

/-- The words after the name. -/
def arguments : CacheCommand → List String
  | get key => [key]
  | set key value none => [key, value]
  | set key value (some seconds) => [key, value, "EX", String.ofList (Numeral.ofNat seconds)]
  | increment key amount => [key, String.ofList (Numeral.ofInt amount)]
  | ping => []

/-- The words of a command. -/
def words (c : CacheCommand) : List String := c.name :: c.arguments

/-- The JSON text of a command. -/
def body (c : CacheCommand) : String := (Json.array (c.words.map Json.string)).text

/-- The command of some words. -/
def ofWords? : List String → Option CacheCommand
  | ["GET", key] => some (get key)
  | ["SET", key, value] => some (set key value none)
  | ["SET", key, value, "EX", seconds] =>
    (Numeral.digits? seconds.toList).map fun n => set key value (some n)
  | ["INCRBY", key, amount] => (Numeral.integer? amount.toList).map fun n => increment key n
  | ["PING"] => some ping
  | _ => none

end CacheCommand

end Stagehand
