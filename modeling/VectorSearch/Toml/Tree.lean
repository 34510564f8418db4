import VectorSearch.Json.Value

namespace VectorSearch.Toml

/-! The tables of a TOML document while it is read.

A table remembers how it came about, because that decides what may still be added to it: one
named only on the way to another may be opened later, one opened by a header may not be
extended by a dotted key, and no key may be given twice.
-/

/-- How a table came about: on the way to one in a header, by a header of its own, or on the
way to a dotted key. -/
inductive Origin where
  | implied
  | header
  | dotted
deriving DecidableEq, Repr

inductive Node where
  | leaf (value : Json)
  | table (origin : Origin) (entries : List (String × Node))
  | tables (earlier : List (List (String × Node))) (last : List (String × Node))

abbrev Entries := List (String × Node)

namespace Entries

def find? (entries : Entries) (key : String) : Option Node :=
  (List.find? (·.1 == key) entries).map (·.2)

def set (entries : Entries) (key : String) (node : Node) : Entries :=
  Json.insertMember key node entries

/-- Changes the table at a path, making tables on the way. Of an array of tables the last
one is meant. -/
def update (dotted : Bool) (change : Entries → Option Entries) : List String → Entries → Option Entries
  | [], entries => change entries
  | key :: path, entries =>
      match entries.find? key with
      | none => do
          let made ← update dotted change path []
          return entries.set key (.table (if dotted then .dotted else .implied) made)
      | some (.table origin inner) =>
          if dotted && origin = .header then none
          else do return entries.set key (.table origin (← update dotted change path inner))
      | some (.tables earlier last) => do
          return entries.set key (.tables earlier (← update dotted change path last))
      | some (.leaf _) => none

def put (key : String) (value : Json) (entries : Entries) : Option Entries :=
  match entries.find? key with
  | none => some (entries.set key (.leaf value))
  | some _ => none

/-- Gives the key at the end of a dotted path a value. -/
def putAt (path : List String) (value : Json) (entries : Entries) : Option Entries := do
  update true (put (← path.getLast?) value) path.dropLast entries

def openTable (path : List String) (entries : Entries) : Option Entries := do
  let key ← path.getLast?
  let change (entries : Entries) : Option Entries :=
    match entries.find? key with
    | none => some (entries.set key (.table .header []))
    | some (.table .implied inner) => some (entries.set key (.table .header inner))
    | some _ => none
  update false change path.dropLast entries

/-- Adds a table to the array that a header names. -/
def addTable (path : List String) (entries : Entries) : Option Entries := do
  let key ← path.getLast?
  let change (entries : Entries) : Option Entries :=
    match entries.find? key with
    | none => some (entries.set key (.tables [] []))
    | some (.tables earlier last) => some (entries.set key (.tables (earlier ++ [last]) []))
    | some _ => none
  update false change path.dropLast entries

end Entries

mutual

def Node.toJson : Node → Json
  | .leaf value => value
  | .table _ entries => .obj (entriesMembers entries)
  | .tables earlier last => .arr (entriesObjects earlier ++ [.obj (entriesMembers last)])

def entriesMembers : List (String × Node) → List (String × Json)
  | [] => []
  | (key, node) :: rest => (key, node.toJson) :: entriesMembers rest

def entriesObjects : List (List (String × Node)) → List Json
  | [] => []
  | entries :: rest => .obj (entriesMembers entries) :: entriesObjects rest

end

end VectorSearch.Toml
