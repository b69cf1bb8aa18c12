import Stagehand.Role

/-!
# Sessions
The identity behind a request: a tenant, a user and a role. In a JSON text a session is an object
with members in camel case, or an array of its fields.
-/

namespace Stagehand

/-- The identity behind a request. -/
structure Session where
  tenantId : Option String := none
  userId : Option String := none
  role : Role
deriving DecidableEq

namespace Session

/-- The tenant of a session; an empty one counts as absent. -/
def tenant (s : Session) : Option String := s.tenantId.filter (· ≠ "")

/-! ### Sessions in JSON texts -/

/-- The text of an optional string. -/
def optionText : Option String → List Char
  | none => ['n', 'u', 'l', 'l']
  | some s => Json.stringChars s

/-- The text of a session, its members in the order of the fields. -/
def text (s : Session) : String :=
  String.ofList ("\x7b\"tenantId\":".toList ++ optionText s.tenantId ++
    ",\"userId\":".toList ++ optionText s.userId ++
    ",\"role\":".toList ++ Json.stringChars s.role.jsonName ++ ['}'])

/-- What has been read of a session: for each field whether it was there, and its value. -/
structure Partial where
  tenantId : Option (Option String) := none
  userId : Option (Option String) := none
  role : Option Role := none

namespace Partial

/-- Reads the tenant. -/
def readTenant (p : Partial) : Json.Reader Partial
  | s => Json.mapResult (fun t => { p with tenantId := some t }) (Json.readOption Json.readText s)

/-- Reads the user. -/
def readUser (p : Partial) : Json.Reader Partial
  | s => Json.mapResult (fun u => { p with userId := some u }) (Json.readOption Json.readText s)

/-- Reads the role. -/
def readRole (p : Partial) : Json.Reader Partial
  | s => Json.mapResult (fun r => { p with role := some r }) (Role.read s)

/-- The member of a name. -/
def member (p : Partial) (name : String) : Json.Member Partial :=
  if name = "tenantId" then if p.tenantId.isSome then .repeated else .known p.readTenant
  else if name = "userId" then if p.userId.isSome then .repeated else .known p.readUser
  else if name = "role" then if p.role.isSome then .repeated else .known p.readRole
  else .unknown

/-- The session of what was read, if that includes the role. -/
def complete? (p : Partial) : Option Session :=
  p.role.map fun role => ⟨p.tenantId.getD none, p.userId.getD none, role⟩

/-- The session of what was read, or what is wrong without a role. -/
def complete (missing : Json.Cause) (p : Partial) : Except Json.Cause Session :=
  match p.complete? with
  | some s => .ok s
  | none => .error missing

end Partial

/-- Sessions as records. Only the role is needed; an array without it counts as one of two. -/
def record : Json.Record Partial Session where
  expected := "struct Session"
  start := {}
  member := Partial.member
  items := [Partial.readTenant, Partial.readUser, Partial.readRole]
  ofMembers := Partial.complete (.missingField "role")
  ofItems := Partial.complete (.invalidLength 2 "struct Session with 3 elements")

/-- A session. -/
def read : Json.Reader Session := record.read

/-- The session of a text. -/
def parse (text : String) : Except Json.ReadError Session := Json.read read text

end Session

end Stagehand
