import VectorSearch.Text.Utf8
import VectorSearch.Text.Hexadecimal

namespace VectorSearch.Url

open Text

/-- Controls and everything outside ASCII. -/
def isControl (c : Char) : Bool :=
  c < ' ' || '~' < c

def inFragmentSet (c : Char) : Bool :=
  isControl c || c == ' ' || c == '"' || c == '<' || c == '>' || c.toNat == 0x60

def inQuerySet (special : Bool) (c : Char) : Bool :=
  isControl c || c == ' ' || c == '"' || c == '#' || c == '<' || c == '>' ||
    (special && c.toNat == 0x27)

def inPathSet (c : Char) : Bool :=
  inFragmentSet c || c == '#' || c == '?' || c == '^' || c == '{' || c == '}'

def inUserinfoSet (c : Char) : Bool :=
  inPathSet c || c == '/' || c == ':' || c == ';' || c == '=' || c == '@' || c == '[' ||
    c == '\\' || c == ']' || c == '|'

def percentEncodeChar (c : Char) : List Char :=
  (String.utf8EncodeChar c).flatMap fun octet => '%' :: hexByte octet

def percentEncode (encoded : Char → Bool) (text : List Char) : List Char :=
  text.flatMap fun c => if encoded c then percentEncodeChar c else [c]

/-- The octets of a text, each `%` with two hexadecimal digits being one of them. -/
def percentDecode : List Char → List UInt8
  | [] => []
  | '%' :: high :: low :: rest =>
      match hexNumber? [high, low] with
      | some n => UInt8.ofNat n :: percentDecode rest
      | none => encode ['%'] ++ percentDecode (high :: low :: rest)
  | c :: rest => String.utf8EncodeChar c ++ percentDecode rest

end VectorSearch.Url
