import VectorSearch.Text.Table

namespace VectorSearch.Domain

open Text

/-! Directions of writing in domain names.

A name with characters that are written from right to left must have labels each of which
keeps one direction, whatever stands around it.
-/

/-- Where the class of direction changes, among characters that a domain name may hold. -/
def directionRows : List String := [
    "0:N 9:X 5:N e:X 5:N f:E a:N 27:L 1a:N 64:L 18:N 1:L 1c1:N 2:L 7:N e:L 2:N 1c:L 1:N 11:M 71:L",
    "4:N 2:L 7f:N 2:L 8b:M 8:L ff:N 7:M 2d:R 1:M 1:R 1:M 2:R 1:M 2:R 1:M 9:R 36:N 2:R 1:N 2:R 1:N",
    "1:R 1:N 2:M b:R 30:M 15:A a:N 1:A 2:R 3:M 1:R 65:M 8:N 1:M 6:R 2:M 2:N 1:M 4:R 2:E a:R 17:M",
    "1:R 1e:M 1d:R 59:M b:R 3a:M 9:R 2:N 4:R 3:M 1:R 18:M 4:R 1:M 9:R 1:M 3:R 1:M 7:R 29:M 5:R",
    "39:M 9:R 2a:M 39:L 37:M 1:L 1:M 1:L 4:M 8:L 4:M 1:L 3:M f:L 2:M 2:L 1d:M 1:L 3a:M 1:L 4:M",
    "6:L 6:M 1:L 14:M 4:L c:N 2:L 7:N 1:L 2:M 5:L 39:M 2:L 3:M 1b:L 14:M 2:L 3:M 1:L b:M 2:L 39:M",
    "1:L 4:M 8:L 4:M 3:L 12:M 4:L b:N 8:L 1:M 8:L 3a:M 1:L 2:M 1:L 1:M 6:L 6:M a:L b:M 4:L 1c:M",
    "1:L 3d:M 1:L c:M 3:L 23:N d:M 1:L 3:M 1:L 37:M 1:L 1:M 3:L 5:M 12:L a:M 4:L 12:N 7:L 2:M 1:L",
    "3a:M 1:L f:M 9:L d:M 4:L 1a:M 2:L 39:M 2:L 4:M 5:L 7:M 1:L 14:M 4:L 1b:M 1:L 48:M 5:L 3:M",
    "6:L 59:M 1:L 2:M b:N 1:L 7:M 8:L 62:M 1:L 2:M 9:L b:M 8:L 48:M 2:L 1b:M 1:L 1:M 1:L 1:M 1:N",
    "4:L 33:M e:L 1:M 5:L 1:M 2:L 5:M 31:L 8:M 1:L 66:M 4:L 1:M 6:L 1:M 2:L 2:M 2:L 19:M 2:L 4:M",
    "3:L 10:M 4:L d:M 1:L 2:M 2:L 6:M 1:L f:M 1:L 2bf:M 3:L 30:N 10:L 60:N 1:L 29a:N 5:L 72:M 3:L",
    "1d:M 2:L 1e:M e:L 12:M e:L 37:M 7:L 8:M 1:L 2:M b:L 7:N 1:L 1:M 3:L 10:N 20:L 75:M 2:L 22:M",
    "1:L 76:M 3:L 4:M 2:L 9:M 1:L 6:M 7:N 6:L 98:N 22:L 17:M 2:L 2:M 3:L 38:M 1:L 1:M 9:L 1:M 1:L",
    "2:M 8:L 6:M d:L 30:M 54:L 30:M 1:L 1:M 5:L 1:M 1:L 5:M 1:L b:N 2:L 1b:M 9:L b:N 1:M 2:L 20:M",
    "4:L 2:M 2:L 1:M 3:L 38:M 1:L 1:M 2:L 3:M 1:L 1:M 3:L 3a:M 8:L 2:M 5:L 95:M 3:L 1:M d:L 1:M",
    "7:L 4:M 1:L 6:M 1:L 3:M 2:L c6:M 41:L 20b:N c4:M 34:N 4a:L 3c:N 1ac:L 45:N 1a:L 1:N 316:L",
    "1:N 153:L 100:N 330:L b5:N 7:L 3:M 4:L 6:N 7:L 7f:M 1:L 60:M 20:N 205:L 3:N 19:L 9:M 4:L 2:N",
    "1:L 6:N 4:L 2:N 4:L 58:M 4:L 3:N 1:L 5a:N 1:L c4:N 30:L 1bd0:N 40:L 5690:N 40:L 13d:N 3:L",
    "5f:M 4:N 1:M a:N 3:L 1d:M 2:L 50:M 2:L e:N 23:L 65:N 1:L 79:M 1:L 3:M 1:L 4:M 1:L 19:M 2:L",
    "1:N 4:M 4:L 8:N 8:L 34:N c:L 44:M a:L 12:M 12:L d:M 1:L 26:M 8:L 19:M b:L 2e:M 3:L 30:M 1:L",
    "2:M 4:L 2:M 2:L 27:M 1:L 43:M 6:L 2:M 2:L 2:M b:L 3:M 1:L 8:M 1:L 2f:M 1:L 33:M 1:L 1:M 3:L",
    "2:M 2:L 5:M 2:L 1:M 1:L 2a:M 2:L 8:M b:L 69:N 56:L 25:M 1:L 2:M 1:L 4:M 3:L 4f2e:M 94:R 11:N",
    "25d:M 25:N 2e:R 18d:L 101:N 1:L 3e:N 4d:L 3:N 40:L 2d:M 83:L 60:M 1:E 1f:L 76:M a:L 480:R",
    "11f:N 1:R e1:M f:R 28:M 8:R a5:M 6:R 4e:N 7:R 1e4:M c:A 10:E a:R 1f:M 5:N 1:R f1:A 20:R 2b:M",
    "2:R 23:N 2a:M 6:R 46:M b:R 31:M 4:R 7a:L 1:M 1:L 36:M f:L b:N 14:L a:M 1:L 2:M 2:L a:M 3:L",
    "31:M 4:L 2:M 2:L 7:M e:L 30:M 3:L 24:M 5:L 1:M 9:L 3d:M 1:L c:M 2:L 34:M 9:L a:M 4:L 2:M 1:L",
    "5f:M 3:L 2:M 1:L 1:M 2:L 6:M 1:L 2:M 3f:L 5f:M 1:L 3:M d:L 10:M 2:L 39:M 2:L 3:M 1:L 25:M",
    "1a:L 3b:M 7:L c:M 1:L 1:M 1:L 1:M 1:L 1:N d:M 1f:L 38:M 8:L 2:M 3:L 1:M 1:L 17:M 1:L 54:M",
    "6:L 1:M 1:L 4:M 2:L 1:M 2:L ee:M 6:L 4:M 2:L 1:M 2:L 1b:M 24:L 33:M 8:L 2:M 1:L 1:M 2:L 1f:N",
    "20:L 2b:M 1:L 1:M 1:L 2:M 6:L 1:M 1:L 65:M 3:L 2:M 4:L 1:M 9:L ff:M 9:L 1:M 2:L 100:M 2:L",
    "1:M 1:L 4:M 1:L 90:M 8:L 4:M 1:L 20:M 6:L 2:M 2:L 28:M 6:L 2:M 4:L 8:M 9:L 1:M 6:L 2:M 3:L",
    "2e:M d:L 1:M 2:L c6:M 1:L 1:M 3:L 1:M 1:L 7a:N f:L 40:M e:L 54:M 17:L 1:M 7:L 1:M 2:L 1:M",
    "4b:L 31:M 15:L 1:M 9:L 40:M 3:L 2:M 1:L 1:M 1:L 15b:M 2:L b:M 2:L 34:M 8:L 2:M 1:L 1:M 1:L",
    "17:M 56:L 25:N 2a:L 1441:M 1:L 6:M 19:L 2cbe:M c:L 3:M 3:L 9c0:M 5:L 3b:M 7:L 236:N 3:L",
    "1df:M 1:L 3f:M 4:L 4f:N 1:L 1:M c:L 4cad:M 2:L f61:N 300:M 50:L 217:M 3:L 11:M 8:L 2:M 7:L",
    "1e:M 4:L 3b:N 59:M 3:N 7b:L 40:N 60:L 6a0:M 37:L 4:M 32:L 8:M 1:L e:M 1:L 16:M 465:L 100:M",
    "100:L 30:M 7:L 177:M 12:L 2c:M 4:L f:N 1d1:L 1c:M 4:L fe:M 2:L f:N c1:L 23:M 1:L 2:M 1:L 7:M",
    "2:L 5:M 9:L 102:R d0:M 52:R 22:M 7:R 5a5:N 260:L 1d:N 3:L 3d:N 39:L 7a:N da0:L"]

inductive Direction where
  | leftToRight
  | rightToLeft
  | arabicNumber
  | europeanNumber
  /-- Signs and separators, which take the direction of what is around them. -/
  | neutral
  /-- Marks, which have the direction of what they combine with. -/
  | mark
  | other
deriving DecidableEq, Repr

namespace Direction

def ofKey : List Char → Direction
  | ['L'] => .leftToRight
  | ['R'] => .rightToLeft
  | ['A'] => .arabicNumber
  | ['E'] => .europeanNumber
  | ['N'] => .neutral
  | ['M'] => .mark
  | _ => .other

def table : CharProperty Direction := .ofRows .leftToRight ofKey directionRows

def of (c : Char) : Direction :=
  table.of c

end Direction

/-- Makes a name one that is written in both directions. Below the Hebrew letters there is
no such character. -/
def runsRightToLeft (c : Char) : Bool :=
  0x590 ≤ c.toNat && [.rightToLeft, .arabicNumber].contains (Direction.of c)

/-- Without numbers of both kinds. -/
def hasOneKindOfNumber (directions : List Direction) : Bool :=
  !(directions.contains .europeanNumber && directions.contains .arabicNumber)

/-- A label from left to right: it starts with a letter, ends in a letter or number apart from
marks, and holds nothing that runs the other way. -/
def isLeftToRight (directions : List Direction) : Bool :=
  directions.all [.leftToRight, .europeanNumber, .neutral, .mark].contains &&
    ((directions.reverse.dropWhile (· == .mark)).head?.any
      [.leftToRight, .europeanNumber].contains)

/-- A label from right to left, in the same way, with numbers of one kind. -/
def isRightToLeft (directions : List Direction) : Bool :=
  directions.all [.rightToLeft, .arabicNumber, .europeanNumber, .neutral, .mark].contains &&
    hasOneKindOfNumber directions &&
    ((directions.reverse.dropWhile (· == .mark)).head?.any
      [.rightToLeft, .arabicNumber, .europeanNumber].contains)

/-- A label that keeps its direction; its first character says which. -/
def keepsDirection (label : List Char) : Bool :=
  match label.map Direction.of with
  | [] => true
  | .leftToRight :: rest => isLeftToRight (.leftToRight :: rest)
  | .rightToLeft :: rest => isRightToLeft (.rightToLeft :: rest)
  | _ => false

end VectorSearch.Domain
