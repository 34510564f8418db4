import VectorSearch.Domain.Joining
import VectorSearch.Domain.Mapping
import VectorSearch.Domain.Punycode
import VectorSearch.Text.Composition

namespace VectorSearch.Domain

open Text

/-- ASCII characters that no domain name holds. -/
def isForbidden (c : Char) : Bool :=
  c ≤ ' ' || c.toNat == 0x7f || "%#/:<>?@[\\]^|".toList.contains c

def isAscii (label : List Char) : Bool :=
  label.all (·.toNat < 0x80)

/-- What stands in front of a label that is spelled in ASCII. -/
def spelledPrefix : List Char := "xn--".toList

def longestSpelling : Nat := 2000

def longestLabel : Nat := 1000

/-- A text that stands for itself. -/
def isPlain (text : List Char) : Bool :=
  text.all (fun c => status c == .valid && !isForbidden c) && compose text == text

/-- The label that a spelling after its prefix stands for. One that is spelled without need
is refused, and so is one that would not stand for itself. -/
def readSpelling? (spelling : List Char) : Option (List Char) :=
  if isAscii spelling && spelling.getLast?.any (· ≠ '-') && spelling.length ≤ longestSpelling then
    (Punycode.decode? spelling).filter isPlain
  else none

/-- The label that is meant, whether it is spelled in ASCII or not. -/
def read? (label : List Char) : Option (List Char) :=
  if spelledPrefix.isPrefixOf label then readSpelling? (label.drop spelledPrefix.length)
  else some label

/-- A label without a mark in front, with joiners only where they make a difference, and not
too long to be spelled. -/
def isFit (label : List Char) : Bool :=
  !label.head?.any isMark && joinersFit [] label &&
    (isAscii label || label.length ≤ longestLabel)

def spell (label : List Char) : List Char :=
  if isAscii label then label else spelledPrefix ++ Punycode.encode label

end VectorSearch.Domain
