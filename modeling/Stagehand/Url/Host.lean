import Stagehand.Url.Address
import Stagehand.Url.Domain

/-!
# Hosts
The host of a URL. Under the special schemes a host is a domain name or an address; under others
it is any text that cannot be mistaken for more than a host.
-/

namespace Stagehand

/-- What can be wrong with a URL. -/
inductive UrlError
  | emptyHost
  | invalidDomain
  | invalidPort
  | invalidIp4
  | invalidIp6
  | invalidHostCharacter
  | noBase
deriving DecidableEq

/-- The words for what is wrong. -/
def UrlError.message : UrlError → String
  | emptyHost => "empty host"
  | invalidDomain => "invalid international domain name"
  | invalidPort => "invalid port number"
  | invalidIp4 => "invalid IPv4 address"
  | invalidIp6 => "invalid IPv6 address"
  | invalidHostCharacter => "invalid domain character"
  | noBase => "relative URL without a base"

/-- The host of a URL. A name may be empty under schemes that are not special. -/
inductive Host
  | name (cs : List Char)
  | ip4 (address : Nat)
  | ip6 (words : List Nat)
deriving DecidableEq

namespace Host

/-- The text of a host. -/
def chars : Host → List Char
  | name cs => cs
  | ip4 n => Ip4.chars n
  | ip6 ws => '[' :: Ip6.chars ws ++ [']']

/-- What no host may contain. -/
def isForbidden (c : Char) : Bool :=
  c ∈ ['\x00', '\t', '\n', '\r', ' ', '#', '/', ':', '<', '>', '?', '@', '[', '\\', ']', '^', '|']

/-- An address between brackets, after the opening one. -/
def parseBracketed (cs : List Char) : Except UrlError Host :=
  if cs.getLast? = some ']' then
    match Ip6.parse? cs.dropLast with
    | some ws => .ok (.ip6 ws)
    | none => .error .invalidIp6
  else .error .invalidIp6

/-- A host under a special scheme. -/
def parse (cs : List Char) : Except UrlError Host :=
  match cs with
  | '[' :: cs => parseBracketed cs
  | cs =>
    match Domain.lookup? (Utf8.shown (Percent.decode cs)).toList with
    | none => .error .invalidDomain
    | some [] => .error .emptyHost
    | some ds =>
      if Ip4.isNumeric ds then
        match Ip4.parse? ds with
        | some n => .ok (.ip4 n)
        | none => .error .invalidIp4
      else .ok (.name ds)

/-- A host under a scheme that is not special. -/
def parseOpaque (cs : List Char) : Except UrlError Host :=
  match cs with
  | '[' :: cs => parseBracketed cs
  | cs =>
    if cs.any isForbidden then .error .invalidHostCharacter
    else .ok (.name (Percent.encode Percent.isControl cs))

end Host

end Stagehand
