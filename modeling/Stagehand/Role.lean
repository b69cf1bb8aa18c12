import Stagehand.Json.Reader

/-!
# Roles
The roles of actors and their fixed order of privilege. A role is shown and read as its slug. In
JSON texts it goes by its name in small letters, with underscores between the words.
-/

namespace Stagehand

/-- The role held by the actor of a session. -/
inductive Role
  | brandAdmin
  | opsAdmin
  | brandMember
  | creator
  | fan
deriving DecidableEq

namespace Role

/-- All roles, the most privileged first. -/
def all : List Role := [brandAdmin, opsAdmin, brandMember, creator, fan]

/-- The place of a role in the order of privilege: a higher rank may do more. -/
def rank : Role → Nat
  | brandAdmin => 5
  | opsAdmin => 4
  | brandMember => 3
  | creator => 2
  | fan => 1

/-- The name of a role in texts for programs. -/
def slug : Role → String
  | brandAdmin => "brand_admin"
  | opsAdmin => "ops_admin"
  | brandMember => "brand_member"
  | creator => "creator"
  | fan => "fan"

/-- The name of a role for people. -/
def displayName : Role → String
  | brandAdmin => "Brand admin"
  | opsAdmin => "Ops admin"
  | brandMember => "Brand member"
  | creator => "Creator"
  | fan => "Fan"

/-- Whether a role may do whatever `minimum` may do. -/
def atLeast (role minimum : Role) : Bool := minimum.rank ≤ role.rank

/-! ### Roles in texts -/

instance : ToString Role := ⟨slug⟩

/-- A text that names no role. -/
structure Unknown where
  value : String
deriving DecidableEq

/-- The words about a text that names no role. -/
def Unknown.message (e : Unknown) : String := "unknown role `" ++ e.value ++ "`"

/-- The role that a text names. -/
def ofText : String → Except Unknown Role
  | "brand_admin" => .ok brandAdmin
  | "ops_admin" => .ok opsAdmin
  | "brand_member" => .ok brandMember
  | "creator" => .ok creator
  | "fan" => .ok fan
  | other => .error ⟨other⟩

/-! ### Roles in JSON texts -/

/-- The name of a role as one word, with a capital for each of its words. -/
def capitalized : Role → String
  | brandAdmin => "BrandAdmin"
  | opsAdmin => "OpsAdmin"
  | brandMember => "BrandMember"
  | creator => "Creator"
  | fan => "Fan"

/-- A word in small letters, with an underscore before each capital that is not the first letter. -/
def snakeCase (word : String) : String :=
  let parted (c : Char) : List Char := if c.isUpper then ['_', c.toLower] else [c.toLower]
  String.ofList <|
    match word.toList with
    | [] => []
    | c :: cs => c.toLower :: cs.flatMap parted

/-- The name of a role in JSON texts. -/
def jsonName (r : Role) : String := snakeCase r.capitalized

/-- The JSON value of a role. -/
def toJson (r : Role) : Json := .string r.jsonName

/-- The role with a name in JSON texts. -/
def ofJsonName? (name : String) : Option Role := all.find? fun r => r.jsonName = name

/-- The role with a name that was read up to here. -/
def named (name : String) (r : List Sym) : Except Json.Fault (Role × List Sym) :=
  match ofJsonName? name with
  | some role => .ok (role, r)
  | none => Json.faultHere (.unknownVariant name (all.map jsonName)) r

/-- What stands for the value of a variant that carries none. -/
def readUnit : Json.Reader Unit
  | s => match Json.skipBlanks s with
    | [] => Json.faultHere .eofInValue []
    | c :: r =>
      if Json.Lead.of c = .null then Json.readWord ['u', 'l', 'l'] r
      else .error (Json.mismatch "unit" (c :: r))

/-- A role as the name of the one member of an object. -/
def readName : Json.Reader Role
  | s => match Json.skipBlanks s with
    | [] => Json.faultHere .eofInObject []
    | c :: r =>
      if Json.Lead.of c = .quote then
        match Json.readString r with
        | .error f => .error f
        | .ok (name, r) => named name r
      else .error (Json.mismatch "variant identifier" (c :: r))

/-- A role as an object: its name, with nothing as the value. -/
def readTagged : Json.Reader Role
  | s => match readName s with
    | .error f => .error f
    | .ok (role, r) =>
      match Json.readColon r with
      | .error f => .error f
      | .ok r =>
        match readUnit r with
        | .error f => .error f
        | .ok (_, r) =>
          match Json.skipBlanks r with
          | [] => Json.faultHere .eofInObject []
          | c :: r =>
            if c = .char '}' then .ok (role, r) else Json.faultHere .expectedValue (c :: r)

/-- A role: its name as a string or as the only member of an object. -/
def read : Json.Reader Role
  | s => match Json.skipBlanks s with
    | [] => Json.faultHere .eofInValue []
    | c :: r =>
      match Json.Lead.of c with
      | .quote =>
        match Json.readString r with
        | .error f => .error f
        | .ok (name, r) => named name r
      | .brace => readTagged r
      | _ => Json.faultNext .expectedValue (c :: r)

/-- The role of a JSON text. -/
def parse (text : String) : Except Json.ReadError Role := Json.read read text

end Role

end Stagehand
