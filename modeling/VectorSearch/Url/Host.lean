import VectorSearch.Domain.Name
import VectorSearch.Url.Address
import VectorSearch.Url.Percent

namespace VectorSearch.Url

open Number Text

/-- Why a text is no URL. -/
inductive Fault where
  | relative
  | emptyHost
  | invalidPort
  | invalidIpv4
  | invalidIpv6
  | invalidDomain
  | invalidCharacter
deriving DecidableEq, Repr

namespace Fault

def message : Fault → String
  | .relative => "relative URL without a base"
  | .emptyHost => "empty host"
  | .invalidPort => "invalid port number"
  | .invalidIpv4 => "invalid IPv4 address"
  | .invalidIpv6 => "invalid IPv6 address"
  | .invalidDomain => "invalid international domain name"
  | .invalidCharacter => "invalid domain character"

end Fault

inductive Host where
  | domain (name : List Char)
  | address (address : Address)
deriving DecidableEq, Repr

namespace Host

/-- A part of an IPv4 address: decimal, octal after `0`, or hexadecimal after `0x`. -/
def ipv4Number? (text : List Char) : Option Nat :=
  match text with
  | [] => none
  | '0' :: x :: rest =>
      if x = 'x' ∨ x = 'X' then hexNumber? rest
      else if (x :: rest).all (fun c => '0' ≤ c && c ≤ '7') then
        some (Nat.ofDigitChars 8 (x :: rest) 0)
      else none
  | text => if text.all Char.isDigit then some (digitsValue text) else none

/-- A last part that is a number makes a host an address. -/
def endsInNumber (text : List Char) : Bool :=
  let last := match (Address.fields '.' text).reverse with
    | [] => []
    | [] :: last :: _ => last
    | last :: _ => last
  (!last.isEmpty && last.all Char.isDigit) || (ipv4Number? last).isSome

/-- One to four numbers, the last of which fills all octets that the others leave. -/
def ipv4? (text : List Char) : Option (List Nat) := do
  let parts := Address.fields '.' text
  let parts := if parts.getLast? = some [] then parts.dropLast else parts
  let numbers ← parts.mapM ipv4Number?
  let last ← numbers.getLast?
  let others := numbers.dropLast
  if 3 < others.length || others.any (255 < ·) || Nat.pow 256 (4 - others.length) ≤ last then none
  else
    let rest := (List.range (4 - others.length)).reverse.map fun place =>
      last / Nat.pow 256 place % 256
    some (others ++ rest)

/-- The host of a scheme that has addresses: octets in brackets, a number for an address,
or a domain. -/
def ofText (text : List Char) : Except Fault Host :=
  match text with
  | '[' :: rest =>
      match rest.reverse with
      | ']' :: inner =>
          match Address.v6? inner.reverse with
          | some groups => .ok (.address (.v6 groups))
          | none => .error .invalidIpv6
      | _ => .error .invalidIpv6
  | text =>
      match (decode? (percentDecode text)).bind Domain.toAscii? with
      | none => .error .invalidDomain
      | some name =>
          if name.isEmpty then .error .emptyHost
          else if endsInNumber name then
            match ipv4? name with
            | some octets => .ok (.address (.v4 octets))
            | none => .error .invalidIpv4
          else .ok (.domain name)

/-- The host of any other scheme, kept as it is. -/
def ofOpaque (text : List Char) : Except Fault Host :=
  match text with
  | '[' :: _ => ofText text
  | text =>
      if text.any (fun c => c == '\x00' || c == '\t' || c == '\n' || c == '\r' ||
          " #/:<>?@[\\]^|".toList.contains c) then .error .invalidCharacter
      else .ok (.domain (percentEncode isControl text))

def text : Host → List Char
  | .domain name => name
  | .address (.v4 octets) => (Address.octetsText octets).toList
  | .address (.v6 groups) => '[' :: (Address.groupsText groups).toList ++ [']']

end Host

end VectorSearch.Url
