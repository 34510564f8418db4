import VectorSearch.Text.Mark

namespace VectorSearch.Domain

open Text

/-! Joiners in domain names.

Two characters without a width ask for letters to be joined or to be kept apart. They are
allowed where that makes a difference: after a virama, and the one that keeps apart also
between letters that would be joined.
-/

/-- Where the way of joining changes, among characters that a domain name may hold. -/
def joiningRows : List String := [
    "300:T 71:U 112:T 8:U 106:T 2d:U 1:T 1:U 1:T 2:U 1:T 2:U 1:T 9:U 40:T b:U 5:D 1:U 1:R 4:D 1:R",
    "1:D 1:R 1:D 5:R 4:D d:U 1:D 7:R 1:D 2:T 15:U e:D 2:T 1:R 3:U 5:D f:R 12:D 26:R 1:D 2:R 9:D",
    "1:R 1:D 1:R 1:D 2:R 2:U 1:R 1:T 8:U 1:T 6:U 2:T 2:U 1:T 4:R 2:U a:D 3:U 2:D 1:U 10:R 1:T 1:D",
    "3:R 5:D 4:R 1:D 9:R 1:D 1:R 1:D 1:R 1:D 2:R 1:T 1d:R 1:D b:R 3:D f:R 2:D 4:R 1:D 1:R 2:D 3:R",
    "2:D 6:U 26:T b:U 19:D 21:T 9:U 9:T 1:U 18:T 4:U 1:T 9:U 1:T 3:U 1:T 7:U 10:R 1:D 5:R 2:D 1:R",
    "1:D a:R 1:D 1:R 3:T 5:U 2:D 1:U 1:D 4:U 1:R 1:D 1:R 1a:U 3:D 1:U 2:D 5:R 1:D 8:T 9:D a:R 3:U",
    "1:R 1:D 2:R 2:D 6:R 1:D f:U 1:T 39:U 37:T 1:U 1:T 1:U 4:T 8:U 4:T 1:U 3:T f:U 2:T 2:U 1d:T",
    "1:U 3a:T 1:U 4:T 6:U 6:T 1:U 14:T 4:U 18:T 5:U 39:T 2:U 3:T 1b:U 14:T 2:U 3:T 1:U b:T 2:U",
    "39:T 1:U 4:T 8:U 4:T 3:U 12:T 4:U 14:T 8:U 3a:T 1:U 2:T 1:U 1:T 6:U 6:T a:U b:T 4:U 1c:T 1:U",
    "3d:T 1:U c:T 3:U 30:T 1:U 3:T 1:U 37:T 1:U 1:T 3:U 5:T 12:U a:T 4:U 1b:T 1:U 3a:T 1:U 2:T",
    "1:U 6:T 1:U 5:T 9:U d:T 4:U 1a:T 2:U 39:T 2:U 4:T 5:U 7:T 1:U 14:T 4:U 1b:T 1:U 48:T 5:U 3:T",
    "6:U 59:T 1:U 2:T b:U 8:T 8:U 62:T 1:U 2:T 9:U b:T 8:U 48:T 2:U 1b:T 1:U 1:T 1:U 1:T 1:U 37:T",
    "e:U 1:T 5:U 1:T 2:U 5:T 31:U 8:T 1:U 66:T 4:U 1:T 6:U 1:T 2:U 2:T 2:U 19:T 2:U 4:T 3:U 10:T",
    "4:U d:T 1:U 2:T 2:U 6:T 1:U f:T 1:U 2bf:T 3:U 3b2:T 3:U 1d:T 2:U 1e:T e:U 12:T e:U 37:T 7:U",
    "8:T 1:U 2:T b:U 9:T 3:U 27:D 1:U 18:D 60:U 5:T 2:D 22:T 1:D 6:U 70:T 3:U 4:T 2:U 9:T 1:U 6:T",
    "7:U d7:T 2:U 2:T 3:U 38:T 1:U 1:T 9:U 1:T 1:U 2:T 8:U 6:T d:U 30:T 54:U 30:T 1:U 1:T 5:U 1:T",
    "1:U 5:T 1:U 28:T 9:U c:T 2:U 20:T 4:U 2:T 2:U 1:T 3:U 38:T 1:U 1:T 2:U 3:T 1:U 1:T 3:U 3a:T",
    "8:U 2:T 5:U 95:T 3:U 1:T d:U 1:T 7:U 4:T 1:U 6:T 1:U 3:T 2:U c6:T 41:U 2cf:T 34:U beb:T 4:U",
    "8c:T 1:U 60:T 20:U 22a:T 4:U 6b:T 4:U 75d2:T 4:U 1:T a:U 20:T 2:U 50:T 2:U 110:T 1:U 3:T 1:U",
    "4:T 1:U 19:T 2:U 5:T 4:U 10:D 32:L 1:U 51:T a:U 12:T 12:U d:T 1:U 26:T 8:U 19:T b:U 2e:T 3:U",
    "30:T 1:U 2:T 4:U 2:T 2:U 27:T 1:U 43:T 6:U 2:T 2:U 2:T b:U 3:T 1:U 8:T 1:U 2f:T 1:U 33:T 1:U",
    "1:T 3:U 2:T 2:U 5:T 2:U 1:T 1:U 2a:T 2:U 8:T b:U e4:T 1:U 2:T 1:U 4:T 3:U 4f2e:T 94:U 26e:T",
    "25:U 3b8:T 83:U 60:T 1:U 95:T a:U 681:T f:U 28:T 8:U 80:D 5:R 1:U 1:R 1:U 1:R 2:U 2:L 1:R",
    "5:D 4:L 1:D 5:R 1:D 3:R 1:U 2:R 1:T 6:D 4:R 1:U 90:D 1:R 1:D 1:R 3:D 3:R 1:D 2:R 1:D 1:R 2:D",
    "1:R 8:U 10:R 4:D 2:U 151:L 1:D 21:R 1:D 1:T c:U 39:T 5:U 13d:T 2:U 15:R 1:D 2:U 1:D a:U 2a:T",
    "6:U 30:D 3:R 1:D 11:U 1:T b:D 3:R 1:U 1b:D 4:R 2:D c:T 4:U 2a:D 1:U 1:D 2:R 3:U 1:D 1:R 2:D",
    "2:R 1:D 2:U 1:D 1:R 2:D 1:U 4:R 1:D 1:L 15:U 21:T 1:U 36:T f:U 29:T 1:U 2:T 2:U a:T 3:U 31:T",
    "4:U 2:T 2:U 7:T e:U 30:T 3:U 24:T 5:U 1:T 9:U 3d:T 1:U c:T 2:U 34:T 9:U a:T 4:U 2:T 1:U 5f:T",
    "3:U 2:T 1:U 1:T 2:U 6:T 1:U 2:T 3f:U 5f:T 1:U 3:T d:U 10:T 2:U 39:T 2:U 3:T 1:U 25:T 1a:U",
    "3b:T 7:U c:T 1:U 1:T 1:U 1:T 1:U e:T 1f:U 38:T 8:U 2:T 3:U 1:T 1:U 17:T 1:U 54:T 6:U 1:T 1:U",
    "4:T 2:U 1:T 2:U ee:T 6:U 4:T 2:U 1:T 2:U 1b:T 24:U 33:T 8:U 2:T 1:U 1:T 2:U 6a:T 1:U 1:T 1:U",
    "2:T 6:U 1:T 1:U 65:T 1:U 1:T 1:U 2:T 4:U 1:T 9:U ff:T 9:U 1:T 2:U 100:T 2:U 1:T 1:U 4:T 1:U",
    "90:T 8:U 4:T 1:U 20:T a:U 28:T 6:U 2:T 4:U 8:T 9:U 1:T 6:U 2:T 3:U 2e:T d:U 1:T 2:U c6:T 1:U",
    "1:T 3:U 1:T 1:U c9:T e:U 1:T 1:U 52:T 17:U 1:T 7:U 1:T 2:U 1:T 4b:U 31:T 15:U 1:T 9:U 40:T",
    "3:U 2:T 1:U 1:T 1:U 15b:T 2:U b:T 2:U 34:T 8:U 2:T 1:U 1:T 1:U 17:T 56:U 1490:T 1:U 6:T 19:U",
    "2cbe:T c:U 3:T 3:U 9c0:T 5:U 3b:T 7:U 418:T 1:U 3f:T 4:U 51:T c:U 4cad:T 2:U 1261:T 50:U",
    "217:T 3:U 11:T 8:U 2:T 7:U 1e:T 4:U 94:T 3:U 7bb:T 37:U 4:T 32:U 8:T 1:U e:T 1:U 16:T 465:U",
    "100:T 100:U 30:T 7:U 177:T 12:U 2c:T 4:U 1fc:T 4:U fe:T 2:U f3:T 1:U 2:T 1:U 7:T 2:U 5:T 9:U",
    "1d2:T 52:D 22:T c:U"]

/-- To which sides a letter is joined. -/
inductive Joining where
  | none
  | left
  | right
  | both
  /-- Joins nothing, and does not keep its neighbours from being joined. -/
  | transparent
deriving DecidableEq, Repr

namespace Joining

def ofKey : List Char → Joining
  | ['L'] => .left
  | ['R'] => .right
  | ['D'] => .both
  | ['T'] => .transparent
  | _ => .none

def table : CharProperty Joining := .ofRows .none ofKey joiningRows

def of (c : Char) : Joining :=
  table.of c

end Joining

def keepsApart (c : Char) : Bool :=
  c.toNat == 0x200c

def isJoiner (c : Char) : Bool :=
  keepsApart c || c.toNat == 0x200d

/-- The nearest character that is not transparent joins in one of some ways. -/
def nearestJoins (ways : List Joining) (text : List Char) : Bool :=
  ((text.map Joining.of).dropWhile (· == .transparent)).head?.any ways.contains

/-- Every joiner stands where it makes a difference; `before` holds what stands before the
text, the last first. -/
def joinersFit (before : List Char) : List Char → Bool
  | [] => true
  | c :: rest =>
      (!isJoiner c || before.head?.any isVirama ||
        (keepsApart c && nearestJoins [.left, .both] before && nearestJoins [.right, .both] rest)) &&
      joinersFit (c :: before) rest

end VectorSearch.Domain
