import VectorSearch.Number.Numeral
import VectorSearch.Text.Hexadecimal

namespace VectorSearch

open Number Text

/-- Four octets or eight groups of 16 bits. -/
inductive Address where
  | v4 (octets : List Nat)
  | v6 (groups : List Nat)
deriving DecidableEq, Repr

namespace Address

/-- Splits a text at each occurrence of a character. -/
def fields (separator : Char) (text : List Char) : List (List Char) :=
  text.splitOn separator

/-- An octet in decimal, without leading zeros. -/
def octet? (digits : List Char) : Option Nat :=
  if digits.isEmpty || 3 < digits.length || !digits.all Char.isDigit then none
  else if 1 < digits.length && digits.head? == some '0' then none
  else if digitsValue digits < 256 then some (digitsValue digits)
  else none

def octets? (text : List Char) : Option (List Nat) := do
  let octets ← (fields '.' text).mapM octet?
  if octets.length = 4 then some octets else none

/-- A group of one to four hexadecimal digits. -/
def group? (digits : List Char) : Option Nat :=
  if digits.isEmpty || 4 < digits.length then none else hexNumber? digits

/-- Groups between colons; the last two may be written as four octets. -/
def groups? : List (List Char) → Option (List Nat)
  | [] => some []
  | [field] =>
      match octets? field with
      | some [a, b, c, d] => some [a * 256 + b, c * 256 + d]
      | _ => (group? field).map ([·])
  | field :: rest => do return (← group? field) :: (← groups? rest)

/-- Groups, of which there may be none at all. -/
def someGroups? (text : List Char) : Option (List Nat) :=
  if text.isEmpty then some [] else groups? (fields ':' text)

/-- The text before a double colon and the text after it. -/
def splitGap : List Char → List Char → Option (List Char × List Char)
  | _, [] => none
  | before, ':' :: ':' :: rest => some (before.reverse, rest)
  | before, c :: rest => splitGap (c :: before) rest

/-- Eight groups; a double colon stands for one or more that are zero. -/
def v6? (text : List Char) : Option (List Nat) :=
  match splitGap [] text with
  | none => do
      let groups ← someGroups? text
      if groups.length = 8 then some groups else none
  | some (before, after) => do
      let head ← if before.contains '.' then none else someGroups? before
      let tail ← someGroups? after
      if head.length + tail.length < 8 then
        some (head ++ List.replicate (8 - head.length - tail.length) 0 ++ tail)
      else none

def parse? (text : String) : Option Address :=
  match octets? text.toList with
  | some octets => some (.v4 octets)
  | none => .v6 <$> v6? text.toList

def octetsText (octets : List Nat) : String :=
  String.intercalate "." (octets.map toString)

/-- A group in hexadecimal without leading zeros. -/
def groupText (group : Nat) : String :=
  String.ofList (Nat.toDigits 16 group)

def zeros (groups : List Nat) : Nat :=
  (groups.takeWhile (· == 0)).length

/-- The first of the longest runs of zeros: its place and its length. -/
def longestZeros (groups : List Nat) : Nat × Nat :=
  (List.range groups.length).foldl
    (fun best place =>
      let count := zeros (groups.drop place)
      if best.2 < count then (place, count) else best)
    (0, 0)

/-- Eight groups, the longest run of at least two zeros written as a double colon. -/
def groupsText (groups : List Nat) : String :=
  let joined (part : List Nat) := String.intercalate ":" (part.map groupText)
  let (place, count) := longestZeros groups
  if 2 ≤ count then joined (groups.take place) ++ "::" ++ joined (groups.drop (place + count))
  else joined groups

/-- The text of an address; one that embeds four octets shows them. -/
def text : Address → String
  | .v4 octets => octetsText octets
  | .v6 [0, 0, 0, 0, 0, 0xffff, high, low] =>
      "::ffff:" ++ octetsText [high / 256, high % 256, low / 256, low % 256]
  | .v6 groups => groupsText groups

def withPort (address : Address) (port : Nat) : String :=
  match address with
  | .v4 _ => address.text ++ ":" ++ toString port
  | .v6 _ => "[" ++ address.text ++ "]:" ++ toString port

end Address

end VectorSearch
