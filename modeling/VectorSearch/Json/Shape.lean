import VectorSearch.Json.Outline

namespace VectorSearch.Json

open Number

/-! Readers of outlines by shape.

A reader walks an outline in the order of its text and refuses at the first fault. Its
first argument says how many more arrays and objects may be entered. A leaf of the wrong
kind is read before it is refused, so a numeral out of range or a string with half a
surrogate pair counts as malformed there.
-/

abbrev Shape (α : Type) := Nat → Outline → Except Refusal α

namespace Outline

/-- The refusal of an outline that has the wrong kind. -/
def refusal : Outline → Refusal
  | .missing => .malformed
  | .text none => .malformed
  | .number numeral => if numeral.read?.isNone then .malformed else .mismatch
  | _ => .mismatch

end Outline

namespace Shape

def text : Shape String := fun _ outline =>
  match outline with
  | .text (some content) => .ok content
  | outline => .error outline.refusal

/-- A number that a conversion accepts. -/
def number (convert : Quantity → Option α) : Shape α := fun _ outline =>
  match outline with
  | .number numeral =>
      match numeral.read? with
      | none => .error .malformed
      | some value =>
          match convert value with
          | some result => .ok result
          | none => .error .mismatch
  | outline => .error outline.refusal

def natural : Shape Nat :=
  number fun
    | .int n => if 0 ≤ n then some n.toNat else none
    | .float _ => none

def double : Shape Float :=
  number fun
    | .int n => some (Number.double n)
    | .float x => some x

def single : Shape Float32 :=
  number fun
    | .int n => some (Number.single n)
    | .float x => some (narrow x)

def optional (shape : Shape α) : Shape (Option α) := fun depth outline =>
  match outline with
  | .null => .ok none
  | outline => some <$> shape depth outline

def list (shape : Shape α) : Shape (List α) := fun depth outline =>
  match outline, depth with
  | .items _ _, 0 => .error .malformed
  | .items held closed, depth + 1 => do
      let values ← held.mapM (shape depth)
      if closed then .ok values else .error .malformed
  | outline, _ => .error outline.refusal

/-- An object with any members, the last one given for each key; objects inside it are sorted
maps. -/
def table : Shape (List (String × Json)) := fun depth outline =>
  match outline, depth with
  | .members _ _, 0 => .error .malformed
  | .members held closed, depth + 1 => do
      let values ← Outline.memberValues depth held
      if closed then .ok (lastMembers (orderedMembers values)) else .error .malformed
  | outline, _ => .error outline.refusal

/-- A slot of a record under construction: the names it goes by, whether it is filled
already, and how its value is put in. -/
structure Slot (ρ : Type) where
  names : List String
  filled : ρ → Bool
  read : Nat → Outline → ρ → Except Refusal ρ

/-- A slot with a getter and a setter and values of one shape. -/
def Slot.of (names : List String) (get : ρ → Option α) (set : ρ → α → ρ) (shape : Shape α) :
    Slot ρ :=
  { names, filled := fun record => (get record).isSome
    read := fun depth outline record => set record <$> shape depth outline }

/-- Takes one member: a slot is filled once, and a member without one need only be well
formed. -/
def readMember (slots : List (Slot ρ)) (depth : Nat) (record : ρ) :
    Option String × Outline → Except Refusal ρ
  | (none, _) => .error .malformed
  | (some key, outline) =>
      match slots.find? (·.names.contains key) with
      | some slot =>
          if slot.filled record then .error .mismatch else slot.read depth outline record
      | none => if outline.wellFormed then .ok record else .error .malformed

/-- Takes array items for the slots in their order; tells whether items are left over. -/
def readItems (depth : Nat) : List (Slot ρ) → List Outline → ρ → Except Refusal (ρ × Bool)
  | slot :: slots, item :: items, record => do
      readItems depth slots items (← slot.read depth item record)
  | _, items, record => .ok (record, !items.isEmpty)

/-- A record, written as an object or as the array of its parts in order, of which the last
may be left out. `finish` says what unfilled slots stand for. -/
def record (slots : List (Slot ρ)) (empty : ρ) (finish : ρ → Option α) : Shape α :=
  fun depth outline =>
    match outline, depth with
    | .items _ _, 0 => .error .malformed
    | .members _ _, 0 => .error .malformed
    | .members held closed, depth + 1 => do
        let record ← held.foldlM (readMember slots depth) empty
        if !closed then .error .malformed
        else
          match finish record with
          | some result => .ok result
          | none => .error .mismatch
    | .items held closed, depth + 1 => do
        let (record, more) ← readItems depth slots held empty
        if more then .error .malformed
        else if !closed && held.length < slots.length then .error .malformed
        else
          match finish record with
          | none => .error .mismatch
          | some result => if closed then .ok result else .error .malformed
    | outline, _ => .error outline.refusal

end Shape

end VectorSearch.Json
