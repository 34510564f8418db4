import VectorSearch.Text.Hexadecimal

namespace VectorSearch.Text

/-! Properties of characters, written down in tables.

A table is a list of rows of words. Each word starts with a gap, in hexadecimal: how far the
place it speaks of lies behind that of the word before it.
-/

def tableWords (rows : List String) : List (List Char) :=
  rows.flatMap fun row => row.toList.splitOn ' '

/-- A word's gap, and what stands after the colon. -/
def gapAndKey (word : List Char) : Nat × List Char :=
  ((hexNumber? (word.takeWhile (· ≠ ':'))).getD 0, (word.dropWhile (· ≠ ':')).tail)

/-- The places that gaps lead to. -/
def placesAfter (last : Nat) : List (Nat × α) → List (Nat × α)
  | [] => []
  | (gap, item) :: rest => (last + gap, item) :: placesAfter (last + gap) rest

/-- The entries of a table at their places. -/
def tableEntries (rows : List String) : List (Nat × List Char) :=
  placesAfter 0 ((tableWords rows).map gapAndKey)

/-- A set of characters, by the places where it begins and ends in turns. -/
structure CharSet where
  edges : List Nat

namespace CharSet

def ofRows (rows : List String) : CharSet :=
  ⟨(tableEntries rows).map (·.1)⟩

def contains (set : CharSet) (c : Char) : Bool :=
  set.edges.countP (· ≤ c.toNat) % 2 == 1

end CharSet

/-- A property of characters, by the places from which on it has another value. -/
structure CharProperty (α : Type) where
  initial : α
  changes : List (Nat × α)

namespace CharProperty

def ofRows (initial : α) (read : List Char → α) (rows : List String) : CharProperty α :=
  ⟨initial, (tableEntries rows).map fun (place, key) => (place, read key)⟩

def of (property : CharProperty α) (c : Char) : α :=
  ((property.changes.takeWhile (·.1 ≤ c.toNat)).getLast?.map (·.2)).getD property.initial

end CharProperty

end VectorSearch.Text
