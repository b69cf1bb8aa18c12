import Stagehand.Session

/-!
# Access checks
Checks of the role and the tenant of a session, and what a denied request is answered with.
-/

namespace Stagehand

/-- Why access is denied. -/
inductive AccessError
  | forbidden (role : Role)
  | tenantRequired
deriving DecidableEq

namespace AccessError

/-- The words for why access is denied. -/
def message : AccessError → String
  | forbidden role => "role `" ++ toString role ++ "` is not permitted"
  | tenantRequired => "tenant required"

/-- The status of the answer to a denied request. -/
def status : AccessError → Nat
  | forbidden _ => 403
  | tenantRequired => 400

/-- The body of the answer to a denied request, which tells no more than it must. -/
def body : AccessError → String
  | forbidden _ => "Access denied"
  | tenantRequired => "Tenant required"

/-- The content type of the answer to a denied request. -/
def contentType : String := "text/plain; charset=utf-8"

end AccessError

namespace Session

/-- The role of the session is among the allowed ones. -/
def assertRole (s : Session) (allowed : List Role) : Except AccessError Unit :=
  if s.role ∈ allowed then .ok () else .error (.forbidden s.role)

/-- The tenant of the session, which must be there and not empty. -/
def requireTenant (s : Session) : Except AccessError String :=
  match s.tenant with
  | some t => .ok t
  | none => .error .tenantRequired

/-- Whether the role of the session ranks at least as high as `minimum`. -/
def canAct (s : Session) (minimum : Role) : Bool := s.role.atLeast minimum

end Session

end Stagehand
