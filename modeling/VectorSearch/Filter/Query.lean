import VectorSearch.Filter.Wire

namespace VectorSearch

/-! Filters as query strings.

Each condition becomes a fragment `metadata.<key>.<operator>=<value>` and the fragments are
joined by `&`. A negation compiles its inside on its own; how it is marked depends on the
style, and in the plain style also on whether a fragment stands before it.
-/

inductive NegationStyle where
  | legacy
  | wrapped
deriving DecidableEq, Repr

namespace NegationStyle

def name : NegationStyle → String
  | .legacy => "legacy"
  | .wrapped => "wrapped"

def ofName? : String → Option NegationStyle
  | "legacy" => some .legacy
  | "wrapped" => some .wrapped
  | _ => none

end NegationStyle

/-- Why a filter has no query string. -/
inductive FilterError where
  | invalidValue (key : String) (found : String)
  | unsupportedOperator (operator : Operator)
deriving DecidableEq, Repr

namespace FilterError

def message : FilterError → String
  | .invalidValue key found =>
      "Invalid value for filter key '" ++ key ++ "': expected a list, got " ++ found
  | .unsupportedOperator operator =>
      "Operator '" ++ operator.name ++ "' is not supported in a comparison"

end FilterError

namespace Filter

def conditionText (key : String) (operator : Operator) (operand : Operand) : String :=
  "metadata." ++ key ++ "." ++ operator.name ++ "=" ++ operand.wireText

/-- A comparison with an operator on sets has no fragment. -/
def compareFragment (key : String) (operator : Operator) (operand : Operand) :
    Except FilterError String :=
  if operator.isRelational then .ok (conditionText key operator operand)
  else .error (.unsupportedOperator operator)

/-- Membership in anything but a list has no fragment. -/
def memberFragment (key : String) (negated : Bool) : Operand → Except FilterError String
  | .one scalar => .error (.invalidValue key scalar.kind)
  | .many scalars => .ok (conditionText key (if negated then .notIn else .isIn) (.many scalars))

/-- The fragment of a negation, given the query string of its inside and whether it is the
first fragment. -/
def negationText (style : NegationStyle) (first : Bool) (inner : String) : String :=
  match style, first with
  | .legacy, true => "metadata." ++ inner ++ ".not="
  | .legacy, false => "metadata.&" ++ inner ++ ".not="
  | .wrapped, _ => "not(" ++ inner ++ ")"

/-- Appends the fragments of a filter to those before it. A negation starts on a list of
its own. -/
def collect (style : NegationStyle) (before : List String) :
    Filter → Except FilterError (List String)
  | .compare key operator operand => do
      return before ++ [← compareFragment key operator operand]
  | .member key negated operand => do
      return before ++ [← memberFragment key negated operand]
  | .not inner => do
      let compiled := String.intercalate "&" (← inner.collect style [])
      return before ++ [negationText style before.isEmpty compiled]
  | .and left right => do
      let collected ← left.collect style before
      right.collect style collected
  | .or left right => do
      let collected ← left.collect style before
      right.collect style collected
  | .group inner => inner.collect style before

def compile (style : NegationStyle) (filter : Filter) : Except FilterError String :=
  String.intercalate "&" <$> filter.collect style []

end Filter

end VectorSearch
