import VectorSearch.Http.Credentials
import VectorSearch.Http.Message

namespace VectorSearch.Http

open Text

/-- Header names are in lower case. -/
structure Frame where
  start : String
  headers : List (String × String)
  body : List UInt8
deriving DecidableEq, Repr

namespace Frame

def header? (frame : Frame) (name : String) : Option String :=
  (frame.headers.find? (·.1 == name)).map (·.2)

/-- The octets up to the first empty line, and those after it. -/
def splitHead : List UInt8 → Option (List UInt8 × List UInt8)
  | [] => none
  | 13 :: 10 :: 13 :: 10 :: rest => some ([], rest)
  | octet :: rest => (splitHead rest).map fun (head, body) => (octet :: head, body)

/-- A name, a colon and a value with blanks around it. -/
def headerLine (line : List Char) : String × String :=
  let name := line.takeWhile (· ≠ ':')
  let value := (line.drop (name.length + 1)).dropWhile isBlank
  (String.ofList (name.map Char.toLower), String.ofList (dropEndWhile isBlank value))

/-- The frame that octets begin with; its body is as long as it is so far. -/
def ofOctets? (octets : List UInt8) : Option Frame := do
  let (head, body) ← splitHead octets
  match ((decodeLossy head).filter (· ≠ '\r')).splitOn '\n' with
  | [] => none
  | start :: lines => return ⟨String.ofList start, lines.map headerLine, body⟩

def length? (frame : Frame) : Option Nat :=
  (frame.header? "content-length").bind String.toNat?

/-- The whole body of a request has arrived. -/
def isWhole (frame : Frame) : Bool :=
  frame.length?.getD 0 ≤ frame.body.length

/-- A body in chunks, of which each has its length before it; at most `fuel` of them. -/
def joinChunks : Nat → List UInt8 → List UInt8
  | 0, _ => []
  | fuel + 1, octets =>
      let size := octets.takeWhile (· ≠ 13)
      let digits := (decodeLossy size).takeWhile fun c => (hexValue? c).isSome
      let rest := octets.drop (size.length + 2)
      match hexNumber? digits with
      | none => []
      | some 0 => []
      | some count => rest.take count ++ joinChunks fuel (rest.drop (count + 2))

/-- The body as it was meant, after the connection has ended. -/
def content (frame : Frame) : List UInt8 :=
  if frame.header? "transfer-encoding" = some "chunked" then
    joinChunks frame.body.length frame.body
  else frame.body.take (frame.length?.getD frame.body.length)

def octets (frame : Frame) : List UInt8 :=
  let lines := frame.start :: frame.headers.map fun (name, value) => name ++ ": " ++ value
  encode (String.join (lines.map (· ++ "\r\n")) ++ "\r\n").toList ++ frame.body

/-- A frame with its length and the end of the connection after it. -/
def closing (start : String) (headers : List (String × String)) (body : String) : Frame :=
  let octets := encode body.toList
  ⟨start, headers ++ [("content-length", toString octets.length), ("connection", "close")], octets⟩

end Frame

/-- Where a URL is to be reached: a name or an address, and a port. -/
def authority (url : Url) : String × Nat :=
  (match url.host with
    | some (.domain name) => String.ofList name
    | some (.address address) => address.text
    | none => "",
   (url.port.or (Url.defaultPort? (String.ofList url.scheme))).getD 80)

/-- A host as it stands in a header, an address with colons in brackets, and a port of its own. -/
def hostText (url : Url) : String :=
  String.ofList ((url.host.map Url.Host.text).getD []) ++
    ((url.port.map fun port => ":" ++ toString port).getD "")

def Request.frame (request : Request) : Frame :=
  .closing (request.method.name ++ " " ++ request.url.target ++ " HTTP/1.1")
    (("host", hostText request.url) ::
      ((credentials? request.url).map Credentials.header).toList ++ request.headers)
    (request.body.getD "")

/-- A response whose connection has ended. -/
def Response.ofFrame? (frame : Frame) : Option Response :=
  match frame.start.toList.splitOn ' ' with
  | _ :: status :: _ =>
      (String.ofList status).toNat?.map (⟨·, String.ofList (decodeLossy frame.content)⟩)
  | _ => none

end VectorSearch.Http
