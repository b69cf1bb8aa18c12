import Stagehand.Cache.Command
import Stagehand.Cache.Error
import Stagehand.Json.Reader

/-!
# Cache replies
The cache replies with a JSON object that has a result or an error. Whether a command succeeded
depends on the status and on the reply together; what its result means depends on the command.
-/

namespace Stagehand

/-- A reply of the cache. A result or an error that is null counts as missing. -/
structure CacheReply where
  result : Option Json := none
  error : Option String := none

namespace CacheReply

/-! ### Replies in JSON texts -/

/-- What has been read of a reply: for each field whether it was there, and its value. -/
structure Partial where
  result : Option Json := none
  error : Option (Option String) := none

namespace Partial

/-- Reads the result. -/
def readResult (p : Partial) : Json.Reader Partial
  | s => Json.mapResult (fun v => { p with result := some v })
    (Json.readValue (Json.maxDepth - 1) s)

/-- Reads the error. -/
def readError (p : Partial) : Json.Reader Partial
  | s => Json.mapResult (fun e => { p with error := some e }) (Json.readOption Json.readText s)

/-- The member of a name. -/
def member (p : Partial) (name : String) : Json.Member Partial :=
  if name = "result" then if p.result.isSome then .repeated else .known p.readResult
  else if name = "error" then if p.error.isSome then .repeated else .known p.readError
  else .unknown

/-- The reply of what was read. -/
def complete (p : Partial) : Except Json.Cause CacheReply :=
  .ok ⟨p.result, p.error.join⟩

end Partial

/-- Replies as records, all of whose fields may be missing. -/
def record : Json.Record Partial CacheReply where
  expected := "struct RestReply"
  start := {}
  member := Partial.member
  items := [Partial.readResult, Partial.readError]
  ofMembers := Partial.complete
  ofItems := Partial.complete

/-- The reply of a byte string. -/
def parse (bytes : List UInt8) : Except Json.ReadError CacheReply :=
  Json.readAll record.read (Utf8.symbols bytes)

end CacheReply

/-! ### Results of commands -/

/-- What a command comes to: a value that may be absent, a number, or a word. -/
inductive CacheAnswer
  | value (v : Option String)
  | number (n : Int)
  | word (s : String)
deriving DecidableEq

namespace CacheCommand

/-- The result of a command, by the status and the body of the response. -/
def classify (command : String) (status : Status) (body : List UInt8) : Except CacheError Json :=
  match CacheReply.parse body with
  | .error e =>
    if status.isSuccess then .error (.payload e)
    else .error (.remote command status (Utf8.shown body))
  | .ok reply =>
    match reply.error with
    | some message => .error (.remote command status message)
    | none =>
      if status.isSuccess then .ok (reply.result.getD .null)
      else .error (.remote command status status.text)

/-- The answer that a result means. -/
def answer (c : CacheCommand) (result : Json) : Except CacheError CacheAnswer :=
  let unexpected : Except CacheError CacheAnswer := .error (.unexpectedReply c.name result.text)
  match c, result with
  | get _, .null => .ok (.value none)
  | get _, .string s => .ok (.value (some s))
  | get _, .number n => .ok (.value (some (String.ofList n.chars)))
  | set _ _ _, .null => .ok (.value none)
  | set _ _ _, .string s => .ok (.value (some s))
  | increment _ _, .number (.integer n) => if fitsSigned64 n then .ok (.number n) else unexpected
  | increment _ _, .string s =>
    match signed64? s.toList with
    | some n => .ok (.number n)
    | none => unexpected
  | ping, .string s => .ok (.word s)
  | _, _ => unexpected

end CacheCommand

end Stagehand
