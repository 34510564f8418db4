namespace VectorSearch

/-! Metadata filters.

A `Filter` is a tree of conditions on metadata keys. `Filter.items` is what a store sees of
it: a store knows neither precedence nor alternatives, so both connectives join lists of
items and a group is the list inside it; only a negation keeps its list apart.
-/

inductive Operator where
  | eq
  | ne
  | lt
  | lte
  | gt
  | gte
  | isIn
  | notIn
deriving DecidableEq, Repr

namespace Operator

def all : List Operator := [.eq, .ne, .lt, .lte, .gt, .gte, .isIn, .notIn]

def name : Operator → String
  | .eq => "eq"
  | .ne => "ne"
  | .lt => "lt"
  | .lte => "lte"
  | .gt => "gt"
  | .gte => "gte"
  | .isIn => "in"
  | .notIn => "nin"

def ofName? (name : String) : Option Operator :=
  all.find? (·.name == name)

/-- The operators that compare with a value rather than a set. -/
def isRelational : Operator → Bool
  | .isIn => false
  | .notIn => false
  | _ => true

theorem ofName?_name (operator : Operator) : ofName? operator.name = some operator := by
  cases operator <;> rfl

end Operator

inductive Scalar where
  | boolean (value : Bool)
  | integer (value : Int)
  | float (value : Float)
  | string (value : String)

/-- What a condition compares its key with. -/
inductive Operand where
  | one (scalar : Scalar)
  | many (scalars : List Scalar)

namespace Scalar

def kind : Scalar → String
  | .boolean _ => "boolean"
  | .integer _ => "integer"
  | .float _ => "float"
  | .string _ => "string"

end Scalar

namespace Operand

def kind : Operand → String
  | .one scalar => scalar.kind
  | .many _ => "list"

end Operand

inductive Filter where
  | compare (key : String) (operator : Operator) (operand : Operand)
  | member (key : String) (negated : Bool) (operand : Operand)
  | not (inner : Filter)
  | and (left right : Filter)
  | or (left right : Filter)
  | group (inner : Filter)

namespace Filter

/-- A condition on one key, apart from the filter that it stands in. -/
inductive Condition where
  | compare (key : String) (operator : Operator) (operand : Operand)
  | member (key : String) (negated : Bool) (operand : Operand)

/-- A filter as a store sees it: one condition, or the negation of a list. -/
inductive Item (α : Type) where
  | condition (leaf : α)
  | negation (items : List (Item α))

/-- The conditions of a filter from left to right, each negation one item. -/
def items : Filter → List (Item Condition)
  | .compare key operator operand => [.condition (.compare key operator operand)]
  | .member key negated operand => [.condition (.member key negated operand)]
  | .not inner => [.negation inner.items]
  | .and left right => left.items ++ right.items
  | .or left right => left.items ++ right.items
  | .group inner => inner.items

/-- The conditions of a filter from left to right, also those under negations. -/
def leaves : Filter → List Condition
  | .compare key operator operand => [.compare key operator operand]
  | .member key negated operand => [.member key negated operand]
  | .not inner => inner.leaves
  | .and left right => left.leaves ++ right.leaves
  | .or left right => left.leaves ++ right.leaves
  | .group inner => inner.leaves

end Filter

end VectorSearch
