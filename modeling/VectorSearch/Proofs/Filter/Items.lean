import VectorSearch.Filter.Query

namespace VectorSearch.Filter

/-! What the query string of a filter depends on.

A filter is compiled from its items alone: `compile_eq` says which string they have, or which
condition is at fault. Two filters have the same items exactly when one can be regrouped into
the other, by exchanging connectives, moving their brackets and adding or dropping groups.
-/

/-- A condition as it is sent: a key, an operator, and the text of the operand. -/
structure WireCondition where
  key : String
  operator : Operator
  value : String
deriving DecidableEq

def WireCondition.text (condition : WireCondition) : String :=
  "metadata." ++ condition.key ++ "." ++ condition.operator.name ++ "=" ++ condition.value

namespace Condition

/-- Why a condition has no fragment, if it has none. -/
def fault? : Condition → Option FilterError
  | .compare _ operator _ =>
      if operator.isRelational then none else some (.unsupportedOperator operator)
  | .member key _ (.one scalar) => some (.invalidValue key scalar.kind)
  | .member _ _ (.many _) => none

def wire : Condition → WireCondition
  | .compare key operator operand => ⟨key, operator, operand.wireText⟩
  | .member key negated operand => ⟨key, if negated then .notIn else .isIn, operand.wireText⟩

def filter : Condition → Filter
  | .compare key operator operand => .compare key operator operand
  | .member key negated operand => .member key negated operand

end Condition

namespace Item

mutual

def map (f : α → β) : Item α → Item β
  | .condition leaf => .condition (f leaf)
  | .negation items => .negation (mapAll f items)

def mapAll (f : α → β) : List (Item α) → List (Item β)
  | [] => []
  | item :: rest => item.map f :: mapAll f rest

end

mutual

/-- What stands at the leaves of an item, from left to right. -/
def leaves : Item α → List α
  | .condition leaf => [leaf]
  | .negation items => allLeaves items

def allLeaves : List (Item α) → List α
  | [] => []
  | item :: rest => item.leaves ++ allLeaves rest

end

mutual

/-- The fragment of an item; `first` says that none stands before it. -/
def text (style : NegationStyle) (first : Bool) : Item WireCondition → String
  | .condition leaf => leaf.text
  | .negation items => negationText style first (String.intercalate "&" (texts style true items))

/-- The fragments of items, of which only the first can have none before it. -/
def texts (style : NegationStyle) (first : Bool) : List (Item WireCondition) → List String
  | [] => []
  | item :: rest => item.text style first :: texts style false rest

end

theorem mapAll_append (f : α → β) (left right : List (Item α)) :
    mapAll f (left ++ right) = mapAll f left ++ mapAll f right := by
  induction left with
  | nil => rfl
  | cons item rest ih => simp only [List.cons_append, mapAll, ih]

theorem mapAll_eq_nil_iff {f : α → β} {items : List (Item α)} :
    mapAll f items = [] ↔ items = [] := by
  cases items <;> simp [mapAll]

theorem allLeaves_append (left right : List (Item α)) :
    allLeaves (left ++ right) = allLeaves left ++ allLeaves right := by
  induction left with
  | nil => rfl
  | cons item rest ih => simp only [List.cons_append, allLeaves, ih, List.append_assoc]

theorem texts_append {style : NegationStyle} {first : Bool} {left right : List (Item WireCondition)}
    (nonempty : left ≠ []) :
    texts style first (left ++ right) = texts style first left ++ texts style false right := by
  induction left generalizing first with
  | nil => contradiction
  | cons item rest ih =>
      cases rest with
      | nil => rfl
      | cons next rest =>
          have later := @ih false (List.cons_ne_nil next rest)
          simp only [List.cons_append, texts] at later ⊢
          rw [later]

theorem texts_eq_nil_iff {style : NegationStyle} {first : Bool}
    {items : List (Item WireCondition)} :
    texts style first items = [] ↔ items = [] := by
  cases items <;> simp [texts]

end Item

theorem items_ne_nil (filter : Filter) : filter.items ≠ [] := by
  induction filter with
  | compare | member | not => simp [items]
  | and left right leftIH | or left right leftIH => simp [items, leftIH]
  | group inner ih => exact ih

theorem leaves_eq_allLeaves (filter : Filter) : filter.leaves = Item.allLeaves filter.items := by
  induction filter with
  | compare | member => rfl
  | not inner ih => simpa [items, leaves, Item.allLeaves, Item.leaves] using ih
  | and left right leftIH rightIH | or left right leftIH rightIH =>
      simp only [items, leaves, Item.allLeaves_append, leftIH, rightIH]
  | group inner ih => exact ih

def wireItems (filter : Filter) : List (Item WireCondition) :=
  Item.mapAll Condition.wire filter.items

theorem wireItems_ne_nil (filter : Filter) : filter.wireItems ≠ [] :=
  fun empty => filter.items_ne_nil (Item.mapAll_eq_nil_iff.mp empty)

/-- The fragments of one filter behind those of another. -/
theorem intercalate_texts_append (style : NegationStyle) (first : Bool) (left right : Filter) :
    String.intercalate "&" (Item.texts style first (left.wireItems ++ right.wireItems)) =
      String.intercalate "&" (Item.texts style first left.wireItems) ++ "&" ++
        String.intercalate "&" (Item.texts style false right.wireItems) := by
  rw [Item.texts_append left.wireItems_ne_nil]
  exact String.intercalate_append_of_ne_nil
    (fun empty => left.wireItems_ne_nil (Item.texts_eq_nil_iff.mp empty))
    (fun empty => right.wireItems_ne_nil (Item.texts_eq_nil_iff.mp empty))

theorem wireItems_and (left right : Filter) :
    (Filter.and left right).wireItems = left.wireItems ++ right.wireItems :=
  Item.mapAll_append _ _ _

theorem wireItems_or (left right : Filter) :
    (Filter.or left right).wireItems = left.wireItems ++ right.wireItems :=
  Item.mapAll_append _ _ _

/-- The first fault among the conditions of a filter, from left to right. -/
def fault? (filter : Filter) : Option FilterError :=
  filter.leaves.findSome? Condition.fault?

/-- A filter appends the fragments of its items, unless a condition is at fault. All that
matters of the fragments before it is whether there are any. -/
theorem collect_eq (style : NegationStyle) (before : List String) (filter : Filter) :
    filter.collect style before =
      match filter.fault? with
      | some reason => .error reason
      | none => .ok (before ++ Item.texts style before.isEmpty filter.wireItems) := by
  induction filter generalizing before with
  | compare key operator operand =>
      simp only [collect, compareFragment, fault?, leaves, List.findSome?_singleton,
        Condition.fault?]
      cases operator.isRelational <;> rfl
  | member key negated operand =>
      cases operand <;> rfl
  | not inner ih =>
      have same : (Filter.not inner).fault? = inner.fault? := rfl
      rw [collect, ih, same]
      cases inner.fault? <;> rfl
  | and left right leftIH rightIH | or left right leftIH rightIH =>
      simp only [collect, leftIH, fault?, leaves, List.findSome?_append]
      cases left.leaves.findSome? Condition.fault? with
      | some reason => rfl
      | none =>
          -- The left side has items, so the right side never finds the list empty.
          have started :
              (before ++ Item.texts style before.isEmpty left.wireItems).isEmpty = false := by
            simp [Item.texts_eq_nil_iff, left.wireItems_ne_nil]
          change right.collect style _ = _
          rw [rightIH, started, fault?]
          cases right.leaves.findSome? Condition.fault? with
          | some reason => rfl
          | none =>
              simp only [wireItems_and, wireItems_or, Item.texts_append left.wireItems_ne_nil,
                List.append_assoc]
              rfl
  | group inner ih => exact ih before

/-- The query string of a filter, or the first fault among its conditions. -/
theorem compile_eq (style : NegationStyle) (filter : Filter) :
    filter.compile style =
      match filter.fault? with
      | some reason => .error reason
      | none => .ok (String.intercalate "&" (Item.texts style true filter.wireItems)) := by
  rw [compile, collect_eq]
  cases filter.fault? <;> rfl

theorem compile_eq_ok_iff {style : NegationStyle} {filter : Filter} {query : String} :
    filter.compile style = .ok query ↔
      filter.fault? = none ∧ String.intercalate "&" (Item.texts style true filter.wireItems) = query := by
  rw [compile_eq]
  cases filter.fault? <;> simp

theorem fault?_eq_of_items_eq {left right : Filter} (same : left.items = right.items) :
    left.fault? = right.fault? := by
  rw [fault?, fault?, leaves_eq_allLeaves, leaves_eq_allLeaves, same]

/-- One filter is another with connectives exchanged, their brackets moved, and groups added or
dropped, anywhere in it. -/
inductive Regrouped : Filter → Filter → Prop where
  | refl (filter : Filter) : Regrouped filter filter
  | symm {left right : Filter} : Regrouped left right → Regrouped right left
  | trans {first second third : Filter} :
      Regrouped first second → Regrouped second third → Regrouped first third
  | connective (left right : Filter) : Regrouped (.and left right) (.or left right)
  | assoc (first second third : Filter) :
      Regrouped (.and (.and first second) third) (.and first (.and second third))
  | group (inner : Filter) : Regrouped (.group inner) inner
  | not {left right : Filter} : Regrouped left right → Regrouped (.not left) (.not right)
  | and {left left' right right' : Filter} :
      Regrouped left left' → Regrouped right right' →
        Regrouped (.and left right) (.and left' right')

theorem Regrouped.items_eq {left right : Filter} (regrouped : Regrouped left right) :
    left.items = right.items := by
  induction regrouped with
  | refl | connective | group => rfl
  | symm _ ih => exact ih.symm
  | trans _ _ firstIH secondIH => exact firstIH.trans secondIH
  | assoc first second third => exact List.append_assoc _ _ _
  | not _ ih => simp only [items, ih]
  | and _ _ leftIH rightIH => simp only [items, leftIH, rightIH]

mutual

def ofItem : Item Condition → Filter
  | .condition leaf => leaf.filter
  | .negation items => .not (ofItems items)

/-- A filter with given items, all brackets to the right. No filter is without items, so what
stands for none of them does not matter. -/
def ofItems : List (Item Condition) → Filter
  | [] => .member "" false (.many [])
  | [item] => ofItem item
  | item :: next :: rest => .and (ofItem item) (ofItems (next :: rest))

end

theorem regrouped_ofItems_append {left right : List (Item Condition)}
    (leftNonempty : left ≠ []) (rightNonempty : right ≠ []) :
    Regrouped (.and (ofItems left) (ofItems right)) (ofItems (left ++ right)) := by
  induction left with
  | nil => contradiction
  | cons item rest ih =>
      cases rest with
      | nil =>
          obtain ⟨next, others, rfl⟩ := List.exists_cons_of_ne_nil rightNonempty
          exact .refl _
      | cons next rest =>
          have inner := ih (List.cons_ne_nil next rest)
          exact (Regrouped.assoc _ _ _).trans (.and (.refl _) inner)

theorem regrouped_ofItems (filter : Filter) : Regrouped filter (ofItems filter.items) := by
  induction filter with
  | compare | member => exact .refl _
  | not inner ih => exact .not ih
  | and left right leftIH rightIH =>
      exact (Regrouped.and leftIH rightIH).trans
        (regrouped_ofItems_append left.items_ne_nil right.items_ne_nil)
  | or left right leftIH rightIH =>
      have joined := regrouped_ofItems_append left.items_ne_nil right.items_ne_nil
      have chained := (Regrouped.and leftIH rightIH).trans joined
      exact (Regrouped.connective left right).symm.trans chained
  | group inner ih => exact (Regrouped.group inner).trans ih

theorem items_eq_iff_regrouped {left right : Filter} :
    left.items = right.items ↔ Regrouped left right := by
  constructor
  · intro same
    have leftChain := regrouped_ofItems left
    rw [same] at leftChain
    exact leftChain.trans (regrouped_ofItems right).symm
  · exact Regrouped.items_eq

/-- Filters with the same items, which are those that can be regrouped into each other, have the
same query string or the same fault. -/
theorem compile_eq_of_items_eq (style : NegationStyle) {left right : Filter} :
    (left.items = right.items ↔ Regrouped left right) ∧
      (left.items = right.items → left.compile style = right.compile style) := by
  refine ⟨items_eq_iff_regrouped, ?_⟩
  intro same
  rw [compile_eq, compile_eq, fault?_eq_of_items_eq same, wireItems, wireItems, same]

/-- Below a negation, too, connectives, brackets and groups make no difference. -/
theorem compile_eq_below_negation :
    let brand : Filter := .compare "brand" .eq (.one (.string "Apple"))
    let year : Filter := .member "year" false (.many [.integer 2023, .integer 2024])
    let price : Filter := .compare "price" .lt (.one (.integer 500))
    let left : Filter := .or price (.not (.and (.or brand year) price))
    let right : Filter := .and (.group price) (.not (.group (.or brand (.and year (.group price)))))
    left.items = right.items ∧ left.compile .legacy = right.compile .legacy :=
  ⟨rfl, (compile_eq_of_items_eq .legacy).2 rfl⟩

end VectorSearch.Filter
