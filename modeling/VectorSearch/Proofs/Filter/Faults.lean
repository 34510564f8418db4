import VectorSearch.Proofs.Filter.Items

namespace VectorSearch.Filter

/-- A condition that is refused, and why: a comparison by an operator on sets, or membership in
what is no list. -/
inductive Condition.Refused : Condition → FilterError → Prop where
  | comparison {key : String} {operator : Operator} {operand : Operand}
      (onSets : operator = .isIn ∨ operator = .notIn) :
      Refused (.compare key operator operand) (.unsupportedOperator operator)
  | membership {key : String} {negated : Bool} {operand : Operand}
      (noList : ∀ scalars, operand ≠ .many scalars) :
      Refused (.member key negated operand) (.invalidValue key operand.kind)

theorem Condition.fault?_eq_some_iff {condition : Condition} {reason : FilterError} :
    condition.fault? = some reason ↔ condition.Refused reason := by
  constructor
  · intro faulty
    cases condition with
    | compare key operator operand =>
        cases operator <;> cases faulty
        · exact .comparison (.inl rfl)
        · exact .comparison (.inr rfl)
    | member key negated operand =>
        cases operand <;> cases faulty
        exact .membership fun scalars => nofun
  · intro refused
    cases refused with
    | comparison onSets => rcases onSets with rfl | rfl <;> rfl
    | @membership key negated operand noList =>
        cases operand with
        | one scalar => rfl
        | many scalars => exact absurd rfl (noList scalars)

theorem Condition.fault?_eq_none_iff {condition : Condition} :
    condition.fault? = none ↔ ∀ reason, ¬ condition.Refused reason := by
  rw [Option.eq_none_iff_forall_ne_some]
  exact forall_congr' fun reason => not_congr fault?_eq_some_iff

theorem compile_eq_error_iff_fault? {style : NegationStyle} {filter : Filter} {reason : FilterError} :
    filter.compile style = .error reason ↔ filter.fault? = some reason := by
  rw [compile_eq]
  cases filter.fault? <;> simp

theorem fault?_eq_some_iff_leftmost {filter : Filter} {reason : FilterError} :
    filter.fault? = some reason ↔
      ∃ before leaf after, filter.leaves = before ++ leaf :: after ∧ leaf.Refused reason ∧
        ∀ other ∈ before, ∀ reason, ¬ other.Refused reason := by
  simp only [fault?, List.findSome?_eq_some_iff, Condition.fault?_eq_some_iff,
    Condition.fault?_eq_none_iff]

theorem fault?_isSome_iff {filter : Filter} :
    (∃ reason, filter.fault? = some reason) ↔
      ∃ leaf ∈ filter.leaves, ∃ reason, leaf.Refused reason := by
  simp only [← Condition.fault?_eq_some_iff, ← Option.isSome_iff_exists, fault?,
    List.findSome?_isSome_iff]

/-- A filter has no query string exactly when one of its conditions is refused. The reason is that
of the leftmost refused condition, and the same in both styles of negation. -/
theorem compile_fails_at_leftmost_refused (style : NegationStyle) (filter : Filter) :
    ((∃ reason, filter.compile style = .error reason) ↔
        ∃ leaf ∈ filter.leaves, ∃ reason, leaf.Refused reason) ∧
      (∀ reason, filter.compile style = .error reason ↔
        ∃ before leaf after, filter.leaves = before ++ leaf :: after ∧ leaf.Refused reason ∧
          ∀ other ∈ before, ∀ reason, ¬ other.Refused reason) ∧
      ∀ otherStyle reason,
        filter.compile style = .error reason ↔ filter.compile otherStyle = .error reason := by
  refine ⟨?_, fun reason => ?_, fun otherStyle reason => ?_⟩
  · rw [← fault?_isSome_iff]
    exact exists_congr fun reason => compile_eq_error_iff_fault?
  · exact compile_eq_error_iff_fault?.trans fault?_eq_some_iff_leftmost
  · exact compile_eq_error_iff_fault?.trans compile_eq_error_iff_fault?.symm

/-- The refused comparison under the negation comes before the refused membership. -/
example :
    let year : Filter := .member "year" false (.one (.integer 2024))
    let brand : Filter := .compare "brand" .isIn (.many [.string "Apple"])
    let price : Filter := .compare "price" .lt (.one (.integer 500))
    (Filter.and price (.or (.not (.group (.and price brand))) year)).compile .legacy =
      .error (.unsupportedOperator .isIn) :=
  rfl

end VectorSearch.Filter
