import VectorSearch.Text.Utf8
import VectorSearch.Url.Basic

namespace VectorSearch.Http

open Text

def base64Digit (n : Nat) : Char :=
  if n < 26 then Char.ofNat (65 + n)
  else if n < 52 then Char.ofNat (71 + n)
  else if n < 62 then Char.ofNat (n - 4)
  else if n = 62 then '+'
  else '/'

/-- Octets in base 64, three in four digits; signs of equality fill up the last four. -/
def base64 : List UInt8 → List Char
  | a :: b :: c :: rest =>
      let n := (a.toNat * 256 + b.toNat) * 256 + c.toNat
      [n / 262144, n / 4096 % 64, n / 64 % 64, n % 64].map base64Digit ++ base64 rest
  | [a, b] =>
      let n := a.toNat * 256 + b.toNat
      [n / 1024, n / 16 % 64, n * 4 % 64].map base64Digit ++ ['=']
  | [a] => [a.toNat / 4, a.toNat * 16 % 64].map base64Digit ++ ['=', '=']
  | [] => []

structure Credentials where
  user : List Char
  password : Option (List Char)
deriving DecidableEq, Repr

/-- The credentials in a URL. An empty password is none, and so is one that is not UTF-8; a user
that is not UTF-8 means that there are no credentials at all. -/
def credentials? (url : Url) : Option Credentials := do
  let user ← decode? (Url.percentDecode (url.userinfo.takeWhile (· ≠ ':')))
  let password := match (url.userinfo.dropWhile (· ≠ ':')).tail with
    | [] => none
    | password => decode? (Url.percentDecode password)
  if user.isEmpty && password.isNone then none else some ⟨user, password⟩

/-- What is sent for credentials. -/
def Credentials.header (credentials : Credentials) : String × String :=
  let plain := credentials.user ++ ':' :: credentials.password.getD []
  ("authorization", "Basic " ++ String.ofList (base64 (encode plain)))

end VectorSearch.Http

namespace VectorSearch.Url

/-- What of a user and a password is left in a URL when credentials have been taken out of it. -/
def userText (url : Url) : List Char :=
  let user := percentEncode inUserinfoSet (url.userinfo.takeWhile (· ≠ ':'))
  let password := percentEncode inUserinfoSet (url.userinfo.dropWhile (· ≠ ':')).tail
  if (Http.credentials? url).isSome || (user.isEmpty && password.isEmpty) then []
  else user ++ (if password.isEmpty then [] else ':' :: password) ++ ['@']

/-- A URL as it is handed on to be asked, in ASCII throughout. -/
def text (url : Url) : List Char :=
  url.scheme ++ "://".toList ++ url.userText ++ (url.host.map Host.text).getD [] ++
    (match url.port with
      | some port => ':' :: (toString port).toList
      | none => []) ++
    url.target.toList ++
    (match url.fragment with
      | some fragment => '#' :: fragment
      | none => [])

/-- The most characters that a URL may have to be asked. -/
def lengthLimit : Nat := 65534

/-- Can be asked over HTTP: it is not too long, and its host has none of the characters that a URL
keeps there but a URI forbids. -/
def isHttp (url : Url) : Bool :=
  (url.scheme = "http".toList || url.scheme = "https".toList) &&
    url.host.any (fun host => !host.text.any ("\"\x60\x7b\x7d".toList.contains ·)) &&
    url.text.length ≤ lengthLimit

end VectorSearch.Url
