import VectorSearch.Filter.Basic
import VectorSearch.Json.Shape

namespace VectorSearch

open Number

/-! Filters as JSON.

A filter is an object with its kind under `type`, or an array that starts with its kind. It
is taken in whole before its parts are looked at. Inside another filter the kind may also be
given by its number. A scalar is the first it can be of boolean, whole number of 64 bits,
double and string.
-/

namespace Json

/-- The values of named parts, in order, each present at most once: from the members of an
object or from the items of an array, of which the last may be left out. -/
def parts? (names : List String) : Json → Option (List (Option Json))
  | .obj members =>
      names.mapM fun name =>
        match members.filter (·.1 == name) with
        | [] => some none
        | [(_, value)] => some (some value)
        | _ => none
  | .arr items =>
      if items.length ≤ names.length then
        some (items.map some ++ List.replicate (names.length - items.length) none)
      else none
  | _ => none

end Json

namespace Operator

/-- An operator by its name, or by the one key of an object that holds nothing. -/
def ofJson? : Json → Option Operator
  | .str name => ofName? name
  | .obj [(name, .null)] => ofName? name
  | .obj [(name, .obj [])] => ofName? name
  | _ => none

/-- An operator in a text of its own, where only `null` counts as nothing. -/
def ofText? (text : String) : Option Operator :=
  match Json.parse text with
  | .ok (.obj [(_, .obj [])]) => none
  | .ok value => ofJson? value
  | .error _ => none

end Operator

namespace Scalar

def ofJson? : Json → Option Scalar
  | .bool value => some (.boolean value)
  | .int n =>
      some (if Int64.minValue.toInt ≤ n ∧ n ≤ Int64.maxValue.toInt then .integer n
        else .float (Number.double n))
  | .float x => some (.float x)
  | .str text => some (.string text)
  | _ => none

def toJson : Scalar → Json
  | .boolean value => .bool value
  | .integer n => .int n
  | .float x => .float x
  | .string text => .str text

end Scalar

namespace Operand

def ofJson? : Json → Option Operand
  | .arr items => .many <$> items.mapM Scalar.ofJson?
  | value => .one <$> Scalar.ofJson? value

def toJson : Operand → Json
  | .one scalar => scalar.toJson
  | .many scalars => .arr (scalars.map Scalar.toJson)

end Operand

namespace Filter

inductive Kind where
  | comparison
  | setMembership
  | negation
  | conjunction
  | disjunction
  | group
deriving DecidableEq, Repr

namespace Kind

def all : List Kind := [.comparison, .setMembership, .negation, .conjunction, .disjunction, .group]

def name : Kind → String
  | .comparison => "comparison"
  | .setMembership => "set_membership"
  | .negation => "negation"
  | .conjunction => "conjunction"
  | .disjunction => "disjunction"
  | .group => "group"

def ofName? (name : String) : Option Kind :=
  all.find? (·.name == name)

/-- A kind by its name or by its place among the kinds. -/
def ofJson? : Json → Option Kind
  | .str name => ofName? name
  | .int n => if 0 ≤ n then all[n.toNat]? else none
  | _ => none

end Kind

def keyOf : Option Json → Option String
  | some (.str key) => some key
  | _ => none

def flagOf : Option Json → Option Bool
  | none => some false
  | some (.bool value) => some value
  | some _ => none

/-- A filter of a known kind from the rest of its object or array, the filters inside it
read by `inner`. -/
def ofBody? (inner : Json → Option Filter) (kind : Kind) (body : Json) : Option Filter :=
  match kind with
  | .comparison => do
      let [key, operator, operand] ← body.parts? ["key", "op", "value"] | none
      return .compare (← keyOf key) (← operator.bind Operator.ofJson?) (← operand.bind Operand.ofJson?)
  | .setMembership => do
      let [key, negated, operand] ← body.parts? ["key", "negated", "values"] | none
      return .member (← keyOf key) (← flagOf negated) (← operand.bind Operand.ofJson?)
  | .negation => do
      let [part] ← body.parts? ["inner"] | none
      return .not (← part.bind inner)
  | .conjunction => do
      let [left, right] ← body.parts? ["left", "right"] | none
      return .and (← left.bind inner) (← right.bind inner)
  | .disjunction => do
      let [left, right] ← body.parts? ["left", "right"] | none
      return .or (← left.bind inner) (← right.bind inner)
  | .group => do
      let [part] ← body.parts? ["inner"] | none
      return .group (← part.bind inner)

/-- A filter inside another one, with at most `depth` filters around one another. -/
def ofJson? (depth : Nat) (value : Json) : Option Filter :=
  match depth, value with
  | depth + 1, .obj members => do
      let [(_, tag)] := members.filter (·.1 == "type") | none
      ofBody? (ofJson? depth) (← Kind.ofJson? tag) (.obj (members.filter (·.1 != "type")))
  | depth + 1, .arr (tag :: items) => do
      ofBody? (ofJson? depth) (← Kind.ofJson? tag) (.arr items)
  | _, _ => none

open Json in
/-- The name of a kind as it stands in a text. -/
def kindShape : Shape Kind := fun depth outline => do
  match Kind.ofName? (← Shape.text depth outline) with
  | some kind => .ok kind
  | none => .error .mismatch

open Json in
/-- Takes one member of a filter: its kind, once, or a part of it. -/
def readMember (depth : Nat) (taken : Option Kind × List (String × Json)) :
    Option String × Outline → Except Refusal (Option Kind × List (String × Json))
  | (none, _) => .error .malformed
  | (some key, outline) =>
      if key = "type" then
        if taken.1.isSome then .error .mismatch
        else do return (some (← kindShape depth outline), taken.2)
      else do return (taken.1, taken.2 ++ [(key, ← outline.value depth)])

open Json in
/-- A filter in a text: the kind is read where it stands, and the parts after all of them
have been taken in. -/
def shape : Shape Filter := fun depth outline => do
  let (kind, body) ← match outline, depth with
    | .members _ _, 0 => .error .malformed
    | .items _ _, 0 => .error .malformed
    | .members held closed, depth + 1 => do
        let (kind, members) ← held.foldlM (readMember depth) (none, [])
        if !closed then .error .malformed
        else match kind with
          | some kind => .ok (kind, Json.obj members)
          | none => .error Refusal.mismatch
    | .items [] closed, _ + 1 => .error (if closed then Refusal.mismatch else .malformed)
    | .items (tag :: rest) closed, depth + 1 => do
        let kind ← kindShape depth tag
        let items ← Outline.itemValues depth rest
        if closed then .ok (kind, .arr items) else .error .malformed
    | outline, _ => .error outline.refusal
  match ofBody? (ofJson? depth) kind body with
  | some filter => .ok filter
  | none => .error .mismatch

def parse (text : String) : Except Json.Refusal Filter :=
  Json.readWith shape text

def toJson : Filter → Json
  | .compare key operator operand =>
      .obj [("type", .str "comparison"), ("key", .str key), ("op", .str operator.name),
        ("value", operand.toJson)]
  | .member key negated operand =>
      .obj [("type", .str "set_membership"), ("key", .str key), ("negated", .bool negated),
        ("values", operand.toJson)]
  | .not inner => .obj [("type", .str "negation"), ("inner", inner.toJson)]
  | .and left right =>
      .obj [("type", .str "conjunction"), ("left", left.toJson), ("right", right.toJson)]
  | .or left right =>
      .obj [("type", .str "disjunction"), ("left", left.toJson), ("right", right.toJson)]
  | .group inner => .obj [("type", .str "group"), ("inner", inner.toJson)]

end Filter

end VectorSearch
