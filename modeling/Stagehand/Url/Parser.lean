import Stagehand.Url.Basic

/-!
# Reading URLs
A URL is read leniently: blanks at its ends and line ends within it are passed over, and each part
is brought into the form in which it is written. Under the special schemes a backslash counts as a
slash and the host must be a proper one.
-/

namespace Stagehand.Url

/-! ### Scheme -/

/-- Whether a character is a letter of the first 128. -/
def isLetter (c : Char) : Bool := ('a' ≤ c ∧ c ≤ 'z') ∨ ('A' ≤ c ∧ c ≤ 'Z')

/-- Whether a character may stand in a scheme after the first. -/
def inScheme (c : Char) : Bool := isLetter c ∨ isDigit c ∨ c ∈ ['+', '-', '.']

/-- The scheme at the head of a text, and what follows its colon. -/
def schemeOf? (cs : List Char) : Option (List Char × List Char) :=
  let scheme := cs.takeWhile inScheme
  match cs.drop scheme.length with
  | ':' :: rest =>
    if cs.head?.any isLetter then some (scheme.map Char.toLower, rest) else none
  | _ => none

/-- A text without the blanks and control characters at its ends, nor any line ends and tabs. -/
def cleaned (cs : List Char) : List Char :=
  let outer (c : Char) : Bool := c ≤ ' '
  ((cs.dropWhile outer).reverse.dropWhile outer).reverse.filter
    fun c => c ∉ ['\t', '\n', '\r']

/-! ### Authority -/

/-- Whether a character separates the segments of a path. -/
def isSlash (kind : Kind) (c : Char) : Bool := c = '/' ∨ (kind ≠ .other ∧ c = '\\')

/-- Whether a character ends the authority of a URL. -/
def endsAuthority (kind : Kind) (c : Char) : Bool := isSlash kind c ∨ c = '?' ∨ c = '#'

/-- A user name and a password, encoded. The password begins after the first colon. -/
def userinfo (cs : List Char) : List Char × List Char :=
  let name := cs.takeWhile (· != ':')
  (Percent.encode Percent.inUserinfo name,
    Percent.encode Percent.inUserinfo (cs.drop (name.length + 1)))

/-- The characters after the last `@`. -/
def afterAt (cs : List Char) : List Char := (cs.reverse.takeWhile (· != '@')).reverse

/-- The host at the head of an authority: up to a colon outside of brackets. -/
def hostPart (bracketed : Bool) : List Char → List Char
  | [] => []
  | ':' :: cs => if bracketed then ':' :: hostPart bracketed cs else []
  | '[' :: cs => '[' :: hostPart true cs
  | ']' :: cs => ']' :: hostPart false cs
  | c :: cs => c :: hostPart bracketed cs

/-- A port, up to what ends it, and the rest. A port that the scheme implies is left out. -/
def portOf (scheme cs : List Char) : Except UrlError (Option Nat × List Char) :=
  let digits := cs.takeWhile isDigit
  let rest := cs.drop digits.length
  let n := Numeral.value digits
  if 65535 < n then .error .invalidPort
  else if rest.head?.all fun c => c ∈ ['/', '\\', '?', '#'] then
    .ok (if digits = [] ∨ defaultPort? scheme = some n then none else some n, rest)
  else .error .invalidPort

/-- The authority at the head of a text, as a URL that has no path yet, and the rest. -/
def authority (scheme cs : List Char) : Except UrlError (Url × List Char) :=
  let kind := kind scheme
  let whole := cs.takeWhile fun c => !endsAuthority kind c
  let tail := cs.drop whole.length
  let after := afterAt whole
  let info := whole.take (whole.length - after.length - 1)
  let (username, password) := userinfo info
  let host := hostPart false after
  let rest := after.drop host.length ++ tail
  if whole = ['@'] ∧ tail ≠ [] then .error .emptyHost
  else if host = [] ∧ (kind ≠ .other ∨ rest.head? = some ':' ∨ username ≠ [] ∨ password ≠ []) then
    .error .emptyHost
  else
    match (if kind = .other then Host.parseOpaque host else Host.parse host) with
    | .error e => .error e
    | .ok h =>
      match rest with
      | ':' :: rest =>
        match portOf scheme rest with
        | .error e => .error e
        | .ok (port, rest) =>
          .ok (⟨scheme, username, password, some h, port, .segments [], none, none⟩, rest)
      | rest => .ok (⟨scheme, username, password, some h, none, .segments [], none, none⟩, rest)

/-! ### Path -/

/-- A segment with every encoded point decoded and in one case, so that dots can be recognized. -/
def dots (s : List Char) : List Char :=
  match s with
  | '%' :: '2' :: 'e' :: s => '.' :: dots s
  | '%' :: '2' :: 'E' :: s => '.' :: dots s
  | c :: s => c :: dots s
  | [] => []

/-- Whether a segment is a letter and a colon or a bar, which names a drive of a file system. -/
def isDrive : List Char → Bool
  | [c, d] => isLetter c && (d = ':' ∨ d = '|')
  | _ => false

/-- The segments without the last one; a drive is kept. -/
def parent (done : List (List Char)) : List (List Char) :=
  match done.getLast? with
  | some s => if isDrive s then done else done.dropLast
  | none => []

/-- Adds a segment to those before it. A segment of one dot means the same directory, one of two
dots the directory above. What follows a segment is another one, or nothing if it is `final`. -/
def addSegment (done : List (List Char)) (final : Bool) (s : List Char) : List (List Char) :=
  let closed (ss : List (List Char)) := if final then ss ++ [[]] else ss
  if dots s = ['.'] then closed done
  else if dots s = ['.', '.'] then closed (parent done)
  else done ++ [Percent.encode Percent.inPath s]

/-- Adds segments to those before them. -/
def addSegments (done : List (List Char)) : List (List Char) → List (List Char)
  | [] => done
  | [s] => addSegment done true s
  | s :: ss => addSegments (addSegment done false s) ss

/-- A text cut at every slash. -/
def cutPath (kind : Kind) (cs : List Char) : List (List Char) := cutWhere (isSlash kind) cs

/-- The segments of a path that follow those before them. -/
def pathSegments (kind : Kind) (done : List (List Char)) (cs : List Char) : UrlPath :=
  .segments (addSegments done (cutPath kind cs))

/-- Whether a character ends the path of a URL. -/
def endsPath (c : Char) : Bool := c = '?' ∨ c = '#'

/-- A path after an authority, without what ends it. -/
def pathAfterAuthority (kind : Kind) (cs : List Char) : UrlPath :=
  match cs with
  | [] => if kind = .other then .segments [] else .segments [[]]
  | c :: rest => pathSegments kind [] (if isSlash kind c then rest else c :: rest)

/-! ### Query and fragment -/

/-- Adds the query and the fragment that a text consists of. -/
def withTail (u : Url) (cs : List Char) : Url :=
  let encodedInQuery := if kind u.scheme = .other then Percent.inQuery else Percent.inSpecialQuery
  let fragment (cs : List Char) : Option (List Char) :=
    match cs with
    | '#' :: cs => some (Percent.encode Percent.inFragment cs)
    | _ => none
  match cs with
  | '?' :: cs =>
    let query := cs.takeWhile (· != '#')
    { u with
      query := some (Percent.encode encodedInQuery query)
      fragment := fragment (cs.drop query.length) }
  | cs => { u with query := none, fragment := fragment cs }

/-- Cuts a text into its path and what follows it. -/
def cutTail (cs : List Char) : List Char × List Char :=
  let path := cs.takeWhile fun c => !endsPath c
  (path, cs.drop path.length)

/-! ### Files -/

/-- A drive at the head of a path, with a colon. Other letters after it are a segment of their
own, whatever they are. -/
def fileSegments (segments : List (List Char)) : List (List Char) :=
  match segments with
  | [c, d] :: ss =>
    if isDrive [c, d] then addSegments [[c, ':']] (if ss = [] then [] else ss)
    else addSegments [] ([c, d] :: ss)
  | (c :: ':' :: s) :: ss =>
    if isLetter c then
      addSegments [[c, ':'], Percent.encode Percent.inPath s] ss
    else addSegments [] ((c :: ':' :: s) :: ss)
  | ss => addSegments [] ss

/-- The path of a file, without empty segments in front. -/
def filePath (segments : List (List Char)) : UrlPath :=
  .segments <|
    match segments.dropWhile (· == []) with
    | [] => [[]]
    | ss => ss

/-- A URL of the scheme of files, after its colon. A host is dropped before a drive. -/
def parseFile (cs : List Char) : Except UrlError Url :=
  let u : Url := { scheme := fileScheme, host := some (.name []), path := .segments [] }
  let complete (host : Option Host) (segments : List (List Char)) (tail : List Char) : Url :=
    withTail { u with host := host, path := filePath segments } tail
  let slash := isSlash .file
  match cs with
  | a :: b :: cs =>
    if slash a && slash b then
      let host := cs.takeWhile fun c => !endsAuthority .file c
      let host := if isDrive host then [] else host
      let (path, tail) := cutTail (cs.drop host.length)
      let pieces := cutPath .file path
      if host = [] then .ok (complete u.host (fileSegments pieces) tail)
      else
        match Host.parse host with
        | .error e => .error e
        | .ok h =>
          if h.chars = "localhost".toList then .ok (complete u.host (fileSegments pieces) tail)
          else
            let pieces := match pieces with
              | [] :: ss => if ss = [] then [[]] else ss
              | ss => ss
            let drive := pieces.head?.any isDrive
            .ok (complete (if drive then u.host else some h) (fileSegments pieces) tail)
    else
      let (path, tail) := cutTail (if slash a then b :: cs else a :: b :: cs)
      .ok (complete u.host (fileSegments (cutPath .file path)) tail)
  | cs =>
    let (path, tail) := cutTail cs
    .ok (complete u.host (fileSegments (cutPath .file path)) tail)

/-! ### Whole URLs -/

/-- A URL after the slashes that lead in its authority. -/
def parseAuthority (scheme cs : List Char) : Except UrlError Url :=
  match authority scheme cs with
  | .error e => .error e
  | .ok (u, rest) =>
    let (path, tail) := cutTail rest
    .ok (withTail { u with path := pathAfterAuthority (kind scheme) path } tail)

/-- A URL of a scheme that is not special, after its colon. -/
def parseOther (scheme : List Char) : List Char → Except UrlError Url
  | '/' :: '/' :: cs => parseAuthority scheme cs
  | '/' :: cs =>
    let (path, tail) := cutTail cs
    .ok (withTail { scheme := scheme, path := pathSegments .other [] path } tail)
  | cs =>
    let (path, tail) := cutTail cs
    let encoded := Percent.encode Percent.isControl path
    .ok (withTail { scheme := scheme, path := .opaqueText encoded } tail)

/-- A URL after its scheme and the colon. -/
def parseAfterScheme (scheme cs : List Char) : Except UrlError Url :=
  match kind scheme with
  | .file => parseFile cs
  | .special => parseAuthority scheme (cs.dropWhile fun c => c = '/' ∨ c = '\\')
  | .other => parseOther scheme cs

/-- The URL that a text is. -/
def parse (text : String) : Except UrlError Url :=
  match schemeOf? (cleaned text.toList) with
  | none => .error .noBase
  | some (scheme, rest) => parseAfterScheme scheme rest

/-! ### References -/

/-- A reference without a scheme, resolved against a URL of a special scheme. -/
def resolveRelative (base : Url) (cs : List Char) : Except UrlError Url :=
  let kind := kind base.scheme
  let segments := match base.path with
    | .segments ss => ss
    | .opaqueText _ => []
  match cs with
  | [] => .ok base.withoutFragment
  | c :: rest =>
    if isSlash kind c then
      if rest.head?.any (isSlash kind) then
        match c, rest with
        | '/', '/' :: rest => parseAuthority base.scheme rest
        | _, _ => parseAuthority base.scheme (rest.dropWhile (isSlash kind))
      else
        let (path, tail) := cutTail rest
        .ok (withTail { base with path := pathSegments kind [] path } tail)
    else if c = '#' then
      .ok { base with fragment := some (Percent.encode Percent.inFragment rest) }
    else if c = '?' then .ok (withTail base (c :: rest))
    else
      let (path, tail) := cutTail (c :: rest)
      .ok (withTail { base with path := pathSegments kind segments.dropLast path } tail)

/-- A reference, resolved against a URL of a special scheme: a URL of its own, or one that shares
the parts that it leaves out. -/
def resolve (base : Url) (text : String) : Except UrlError Url :=
  let cs := cleaned text.toList
  match schemeOf? cs with
  | none => resolveRelative base cs
  | some (scheme, rest) =>
    let slashes := rest.takeWhile fun c => c = '/' ∨ c = '\\'
    if scheme = base.scheme ∧ slashes.length < 2 then resolveRelative base rest
    else parseAfterScheme scheme rest

end Stagehand.Url
