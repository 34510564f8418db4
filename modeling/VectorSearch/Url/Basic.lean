import VectorSearch.Url.Host
import VectorSearch.Text.Blank

namespace VectorSearch

open Text

/-! Absolute URLs.

`Url.parse` drops tabs and line breaks, resolves dot segments, percent-encodes what may not
stand as it is and keeps what is encoded already. Schemes that are special have an
authority, whatever slashes stand before it, and take a backslash for a slash.
-/

namespace Url

inductive Path where
  | rootless (text : List Char)
  | rooted (segments : List (List Char))
deriving DecidableEq, Repr

end Url

structure Url where
  scheme : List Char
  userinfo : List Char
  host : Option Url.Host
  port : Option Nat
  path : Url.Path
  query : Option (List Char)
  fragment : Option (List Char)
deriving DecidableEq, Repr

namespace Url

def isLineBreakOrTab (c : Char) : Bool :=
  c == '\t' || c == '\n' || c == '\r'

def defaultPort? (scheme : String) : Option Nat :=
  match scheme with
  | "http" => some 80
  | "ws" => some 80
  | "https" => some 443
  | "wss" => some 443
  | "ftp" => some 21
  | _ => none

def isSpecial (scheme : String) : Bool :=
  scheme == "file" || (defaultPort? scheme).isSome

/-- A letter and letters, digits and three signs up to a colon. -/
def splitScheme (text : List Char) : Option (List Char × List Char) :=
  let scheme := text.takeWhile fun c => c.isAlphanum || c == '+' || c == '-' || c == '.'
  match scheme, text.drop scheme.length with
  | first :: _, ':' :: rest => if first.isAlpha then some (scheme.map Char.toLower, rest) else none
  | _, _ => none

/-- What ends an authority or a segment. -/
def isSlash (special : Bool) (c : Char) : Bool :=
  c == '/' || (special && c == '\\')

/-- Splits a text where a character first passes a test. -/
def breakAt (test : Char → Bool) (text : List Char) : List Char × List Char :=
  (text.takeWhile (!test ·), text.dropWhile (!test ·))

/-- A single dot, one of them perhaps encoded. -/
def isDot (segment : List Char) : Bool :=
  [".", "%2e"].contains (String.ofList (segment.map Char.toLower))

def isDoubleDot (segment : List Char) : Bool :=
  ["..", ".%2e", "%2e.", "%2e%2e"].contains (String.ofList (segment.map Char.toLower))

/-- Resolves dot segments; `done` holds the segments so far, the last first. A path that
ends in a dot segment ends in a slash. -/
def resolve (done : List (List Char)) : List (List Char) → List (List Char)
  | [] => done.reverse
  | [last] =>
      if isDoubleDot last then ([] :: done.tail).reverse
      else if isDot last then ([] :: done).reverse
      else (percentEncode inPathSet last :: done).reverse
  | segment :: rest =>
      if isDoubleDot segment then resolve done.tail rest
      else if isDot segment then resolve done rest
      else resolve (percentEncode inPathSet segment :: done) rest

/-- The segments of a path that follows its first slash. -/
def segments (special : Bool) (text : List Char) : List (List Char) :=
  resolve [] ((text.map fun c => if isSlash special c then '/' else c).splitOn '/')

def withRest (base : Url) (path : List Char → Path) (text : List Char) : Url :=
  let special := isSpecial (String.ofList base.scheme)
  let (beforeFragment, fragment) := breakAt (· == '#') text
  let (pathText, query) := breakAt (· == '?') beforeFragment
  let part (encoded : Char → Bool) (text : List Char) :=
    if text.isEmpty then none else some (percentEncode encoded text.tail)
  { base with
    path := path pathText
    query := part (inQuerySet special) query
    fragment := part inFragmentSet fragment }

/-- A path after an authority; a special scheme always has one. -/
def authorityPath (special : Bool) (text : List Char) : Path :=
  match text with
  | [] => .rooted (if special then [[]] else [])
  | c :: rest => .rooted (segments special (if isSlash special c then rest else text))

/-- The port at the start of a text, and what follows its digits. None at all, or the
scheme's own, leaves it out. -/
def parsePort (scheme : String) (text : List Char) : Except Fault (Option Nat × List Char) :=
  let (digits, rest) := breakAt (!·.isDigit) text
  let port := Number.digitsValue digits
  if 65535 < port || rest.head?.any (!"/\\?#".toList.contains ·) then .error .invalidPort
  else .ok (if digits.isEmpty || some port = defaultPort? scheme then none else some port, rest)

/-- The end of a host: a colon outside brackets. -/
def splitHost (bracketed : Bool) : List Char → List Char × List Char
  | [] => ([], [])
  | c :: rest =>
      if c = ':' ∧ bracketed = false then ([], c :: rest)
      else
        let (host, after) := splitHost (c = '[' || (bracketed && c ≠ ']')) rest
        (c :: host, after)

/-- A text without what stands up to its last at sign, and that part. -/
def splitUserinfo (text : List Char) : Option (List Char) × List Char :=
  if text.contains '@' then
    let after := (text.reverse.takeWhile (· ≠ '@')).reverse
    (some (text.take (text.length - after.length - 1)), after)
  else (none, text)

/-- A URL with an authority at the start of a text. Its host can be left out where the scheme
is not special and there is neither a user nor a port. -/
def withAuthority (scheme : List Char) (text : List Char) : Except Fault Url := do
  let name := String.ofList scheme
  let special := isSpecial name
  let (authority, rest) := breakAt (fun c => isSlash special c || c == '?' || c == '#') text
  let (userinfo, hostAndPort) := splitUserinfo authority
  if userinfo = some [] ∧ hostAndPort.isEmpty ∧ !rest.isEmpty then .error .emptyHost
  else
    let userinfo := userinfo.getD []
    let (hostText, portText) := splitHost false hostAndPort
    if hostText.isEmpty && (special || !portText.isEmpty || !(userinfo.isEmpty || userinfo = [':']))
    then .error .emptyHost
    else
      let host ←
        if hostText.isEmpty then .ok none
        else some <$> if special then Host.ofText hostText else Host.ofOpaque hostText
      let (port, rest) ← parsePort name (portText.tail ++ rest)
      return withRest ⟨scheme, userinfo, host, port, .rooted [], none, none⟩
        (authorityPath special) rest

/-- A letter and a colon or bar, which start a path rather than name a host. -/
def isDriveLetter (text : List Char) : Bool :=
  match text with
  | [letter, mark] => letter.isAlpha && (mark == ':' || mark == '|')
  | _ => false

/-- A file URL, whose host may be left out. -/
def file (scheme : List Char) (text : List Char) : Except Fault Url := do
  let base : Url := ⟨scheme, [], none, none, .rooted [], none, none⟩
  match text with
  | a :: b :: rest =>
      if isSlash true a && isSlash true b then
        let (hostText, after) := breakAt (fun c => isSlash true c || c == '?' || c == '#') rest
        if hostText.isEmpty || isDriveLetter hostText then
          return withRest base (authorityPath true) rest
        else
          let host ← Host.ofText hostText
          let host := if host = .domain "localhost".toList then none else some host
          return withRest { base with host } (authorityPath true) after
      else return withRest base (authorityPath true) text
  | _ => return withRest base (authorityPath true) text

def withoutAuthority (scheme : List Char) (text : List Char) : Url :=
  withRest ⟨scheme, [], none, none, .rooted [], none, none⟩
    (fun path => match path with
      | '/' :: rest => .rooted (segments false rest)
      | path => .rootless (percentEncode isControl path))
    text

def parse (text : String) : Except Fault Url :=
  let trimmed := dropEndWhile (· ≤ ' ') (text.toList.dropWhile (· ≤ ' '))
  match splitScheme (trimmed.filter (!isLineBreakOrTab ·)) with
  | none => .error .relative
  | some (scheme, rest) =>
      let name := String.ofList scheme
      if name = "file" then file scheme rest
      else if isSpecial name then withAuthority scheme (rest.dropWhile (isSlash true))
      else
        match rest with
        | '/' :: '/' :: rest => withAuthority scheme rest
        | rest => .ok (withoutAuthority scheme rest)

/-- Sets the query to a text, of which tabs and line breaks are dropped. -/
def withQuery (url : Url) (query : String) : Url :=
  { url with
    query := some (percentEncode (inQuerySet (isSpecial (String.ofList url.scheme)))
      (query.toList.filter (!isLineBreakOrTab ·))) }

def Path.text : Path → List Char
  | .rootless text => text
  | .rooted segments => segments.flatMap ('/' :: ·)

/-- What a request line names: the path and the query. -/
def target (url : Url) : String :=
  String.ofList (url.path.text ++
    match url.query with
    | some query => '?' :: query
    | none => [])

end Url

end VectorSearch
