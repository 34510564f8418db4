namespace VectorSearch

inductive Json where
  | null
  | bool (value : Bool)
  | int (value : Int)
  | float (value : Float)
  | single (value : Float32)
  | str (value : String)
  | arr (items : List Json)
  | obj (members : List (String × Json))
deriving Inhabited

namespace Json

/-- Sets a member; one that is there already keeps its place. -/
def insertMember (key : String) (value : α) : List (String × α) → List (String × α)
  | [] => [(key, value)]
  | member :: rest =>
      if member.1 = key then (key, value) :: rest else member :: insertMember key value rest

/-- The members of an object with the last value given for each key. -/
def lastMembers (members : List (String × α)) : List (String × α) :=
  members.foldl (fun kept member => insertMember member.1 member.2 kept) []

/-- The members of a sorted map: the last value given for each key, the keys in order. -/
def sortedMembers (members : List (String × α)) : List (String × α) :=
  (lastMembers members).mergeSort fun member other => decide (member.1 ≤ other.1)

mutual

/-- The value with every object in it kept as a sorted map. -/
def ordered : Json → Json
  | .arr items => .arr (orderedItems items)
  | .obj members => .obj (sortedMembers (orderedMembers members))
  | value => value

def orderedItems : List Json → List Json
  | [] => []
  | item :: rest => item.ordered :: orderedItems rest

def orderedMembers : List (String × Json) → List (String × Json)
  | [] => []
  | (key, value) :: rest => (key, value.ordered) :: orderedMembers rest

end

/-- The value of a member, the first one of its name. -/
def member? (key : String) : Json → Option Json
  | .obj members => (members.find? (·.1 == key)).map (·.2)
  | _ => none

mutual

/-- How many arrays and objects enclose the innermost value, this one included. -/
def nesting : Json → Nat
  | .arr items => nestingItems items + 1
  | .obj members => nestingMembers members + 1
  | _ => 0

def nestingItems : List Json → Nat
  | [] => 0
  | item :: rest => max item.nesting (nestingItems rest)

def nestingMembers : List (String × Json) → Nat
  | [] => 0
  | (_, value) :: rest => max value.nesting (nestingMembers rest)

end

end Json

end VectorSearch
