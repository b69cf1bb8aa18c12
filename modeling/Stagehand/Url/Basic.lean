import Stagehand.Url.Host

/-!
# URLs
A URL in its parts, each in the form in which it is written. A URL is redacted for people by
leaving out the user information.
-/

namespace Stagehand

/-- The path of a URL: one text without structure, or segments that slashes lead in. -/
inductive UrlPath
  | opaqueText (cs : List Char)
  | segments (ss : List (List Char))
deriving DecidableEq

/-- A URL. A missing user name or password is empty. The host is missing where there is no
authority at all. -/
structure Url where
  scheme : List Char
  username : List Char := []
  password : List Char := []
  host : Option Host := none
  port : Option Nat := none
  path : UrlPath
  query : Option (List Char) := none
  fragment : Option (List Char) := none
deriving DecidableEq

namespace Url

/-! ### Schemes -/

/-- The scheme of files. -/
def fileScheme : List Char := ['f', 'i', 'l', 'e']

/-- The port that a scheme implies. -/
def defaultPort? (scheme : List Char) : Option Nat :=
  if scheme = ['h', 't', 't', 'p'] ∨ scheme = ['w', 's'] then some 80
  else if scheme = ['h', 't', 't', 'p', 's'] ∨ scheme = ['w', 's', 's'] then some 443
  else if scheme = ['f', 't', 'p'] then some 21
  else none

/-- How the rest of a URL is to be read. -/
inductive Kind
  | file
  | special
  | other
deriving DecidableEq

/-- The kind of a scheme. -/
def kind (scheme : List Char) : Kind :=
  if scheme = fileScheme then .file
  else if (defaultPort? scheme).isSome then .special
  else .other

/-- Whether the URL is one for the web. -/
def isWeb (u : Url) : Bool := u.scheme = ['h', 't', 't', 'p'] ∨ u.scheme = ['h', 't', 't', 'p', 's']

/-! ### Texts -/

/-- The user information with the sign that ends it, where there is any. -/
def userinfoChars (u : Url) : List Char :=
  if u.username = [] ∧ u.password = [] then []
  else u.username ++ (if u.password = [] then [] else ':' :: u.password) ++ ['@']

/-- A port with the sign that begins it. -/
def portChars : Option Nat → List Char
  | none => []
  | some n => ':' :: Numeral.ofNat n

/-- The authority with its slashes, if there is a host. -/
def authorityChars (u : Url) : List Char :=
  match u.host with
  | none => []
  | some h => '/' :: '/' :: u.userinfoChars ++ h.chars ++ portChars u.port

/-- The text of a path. -/
def pathChars : UrlPath → List Char
  | .opaqueText cs => cs
  | .segments ss => ss.flatMap ('/' :: ·)

/-- What keeps a path that begins with two slashes from being taken for an authority. -/
def pathGuard (u : Url) : List Char :=
  match u.host, u.path with
  | none, .segments ([] :: _ :: _) => ['/', '.']
  | _, _ => []

/-- An optional part with the sign that begins it. -/
def partChars (sign : Char) : Option (List Char) → List Char
  | none => []
  | some cs => sign :: cs

/-- The text of a URL. -/
def chars (u : Url) : List Char :=
  u.scheme ++ ':' :: u.authorityChars ++ u.pathGuard ++ pathChars u.path ++
    partChars '?' u.query ++ partChars '#' u.fragment

/-- The text of a URL. -/
def text (u : Url) : String := String.ofList u.chars

/-! ### Parts -/

/-- A URL without its user information. -/
def withoutUserinfo (u : Url) : Url := { u with username := [], password := [] }

/-- A URL without its fragment. -/
def withoutFragment (u : Url) : Url := { u with fragment := none }

/-- Whether a URL has a user name or a password. -/
def hasUserinfo (u : Url) : Bool := u.username ≠ [] ∨ u.password ≠ []

/-! ### Setting the user information -/

/-- Whether a URL has a place for user information: a host that is not empty, under another scheme
than that of files. -/
def takesUserinfo (u : Url) : Bool :=
  u.scheme ≠ fileScheme ∧ u.host ≠ none ∧ u.host ≠ some (.name [])

/-- A URL with another user name, if it has a place for one. -/
def setUsername? (u : Url) (name : List Char) : Option Url :=
  if u.takesUserinfo then some { u with username := Percent.encode Percent.inUserinfo name }
  else none

/-- A URL with another password or none, if it has a place for one. -/
def setPassword? (u : Url) (password : Option (List Char)) : Option Url :=
  if u.takesUserinfo then
    some { u with password := Percent.encode Percent.inUserinfo (password.getD []) }
  else none

/-- A URL whose user information, where there is any, was set to none. -/
def stripped? (u : Url) : Option Url :=
  if u.hasUserinfo then (u.setUsername? []).bind (·.setPassword? none) else some u

/-! ### Ports -/

/-- The port of a URL, given or implied. -/
def effectivePort (u : Url) : Option Nat := u.port.or (defaultPort? u.scheme)

end Url

end Stagehand
