import Mathlib.Data.List.DropRight
import VectorSearch.Proofs.Filter.Wrapped

namespace VectorSearch.Filter

/-! Query strings with plain negations can be read back.

A negation in the plain style opens with `metadata.`, written onto the fragment that follows or as a
fragment of its own, and closes with `.not=`, written onto the fragment before. Where no key holds a
dot and no value an `=`, the dots before the first `=` of a fragment tell how many negations open
with it, and the signs of equality after that one how many close. The main statement is
`decodeLegacy_compile`.
-/

namespace WireCondition

/-- The key can neither end early nor be taken for more than one word, and the value holds no mark
of its own. -/
def Unmarked (condition : WireCondition) : Prop :=
  Avoids ['&', '=', '.'] condition.key ∧ Avoids ['&', '='] condition.value

instance (condition : WireCondition) : Decidable condition.Unmarked :=
  inferInstanceAs (Decidable (_ ∧ _))

end WireCondition

/-- What a query string is made of: conditions, and the marks around what is negated. -/
inductive Sign where
  | opening
  | condition (leaf : WireCondition)
  | closing
deriving DecidableEq

namespace Item

mutual

def signs : Item WireCondition → List Sign
  | .condition leaf => [.condition leaf]
  | .negation items => .opening :: (allSigns items ++ [.closing])

def allSigns : List (Item WireCondition) → List Sign
  | [] => []
  | item :: rest => item.signs ++ allSigns rest

end

theorem allSigns_append (left right : List (Item WireCondition)) :
    allSigns (left ++ right) = allSigns left ++ allSigns right := by
  induction left with
  | nil => rfl
  | cons item rest ih => simp only [List.cons_append, allSigns, ih, List.append_assoc]

end Item

/-- How far signs have been read: the items of the list that is open, and those of the lists around
it, the latest first throughout. -/
structure Nest where
  items : List (Item WireCondition)
  enclosing : List (List (Item WireCondition))

namespace Nest

def step (nest : Nest) : Sign → Option Nest
  | .opening => some ⟨[], nest.items :: nest.enclosing⟩
  | .condition leaf => some { nest with items := .condition leaf :: nest.items }
  | .closing =>
      match nest.enclosing with
      | [] => none
      | outer :: enclosing => some ⟨.negation nest.items.reverse :: outer, enclosing⟩

mutual

theorem foldlM_signs (item : Item WireCondition) (nest : Nest) :
    item.signs.foldlM step nest = some { nest with items := item :: nest.items } := by
  cases item with
  | condition leaf => rfl
  | negation items =>
      rw [Item.signs, List.foldlM_cons]
      change (Item.allSigns items ++ [Sign.closing]).foldlM step ⟨[], nest.items :: nest.enclosing⟩ = _
      rw [List.foldlM_append, foldlM_allSigns]
      simp [step]

theorem foldlM_allSigns (items : List (Item WireCondition)) (nest : Nest) :
    (Item.allSigns items).foldlM step nest =
      some { nest with items := items.reverse ++ nest.items } := by
  cases items with
  | nil => rfl
  | cons item rest =>
      rw [Item.allSigns, List.foldlM_append, foldlM_signs item]
      simp only [Option.bind_eq_bind, Option.bind_some]
      rw [foldlM_allSigns rest]
      simp

end

end Nest

def itemsOf? (signs : List Sign) : Option (List (Item WireCondition)) := do
  let nest ← signs.foldlM Nest.step ⟨[], []⟩
  if nest.enclosing = [] then return nest.items.reverse else none

theorem itemsOf?_allSigns (items : List (Item WireCondition)) :
    itemsOf? (Item.allSigns items) = some items := by
  simp [itemsOf?, Nest.foldlM_allSigns]

/-- A mark so many times over. -/
def marks (count : Nat) (mark : String) : List Char :=
  (List.replicate count mark.toList).flatten

theorem marks_succ (count : Nat) (mark : String) :
    marks (count + 1) mark = mark.toList ++ marks count mark := rfl

theorem marks_succ' (count : Nat) (mark : String) :
    marks (count + 1) mark = marks count mark ++ mark.toList := by
  simp [marks, List.replicate_succ']

theorem length_marks (count : Nat) (mark : String) :
    (marks count mark).length = count * mark.length := by
  rw [← String.length_toList]
  simp [marks]

theorem count_marks (c : Char) (count : Nat) (mark : String) :
    (marks count mark).count c = count * mark.toList.count c := by
  simp [marks, List.count_flatten]

theorem mem_marks {c : Char} {count : Nat} {mark : String} (member : c ∈ marks count mark) :
    c ∈ mark.toList := by
  obtain ⟨_, copy, inside⟩ := List.mem_flatten.mp member
  rwa [List.eq_of_mem_replicate copy] at inside

/-- The signs of one fragment: the mark that opens a negation behind other fragments, or a
condition with the marks that are written onto it. -/
def readFragment? (fragment : List Char) : Option (List Sign) :=
  if fragment = "metadata.".toList then some [.opening]
  else do
    let opened := (fragment.takeWhile (· != '=')).count '.' - 2
    let closed := fragment.count '=' - 1
    let leaf ← WireCondition.read? ((fragment.drop (9 * opened)).rdrop (5 * closed))
    return List.replicate opened .opening ++ .condition leaf :: List.replicate closed .closing

def signsOf? (query : List Char) : Option (List Sign) := do
  return (← (query.splitOn '&').mapM readFragment?).flatten

theorem signsOf?_append {left right : List Char} {before after : List Sign}
    (leftSigns : signsOf? left = some before) (rightSigns : signsOf? right = some after) :
    signsOf? (left ++ '&' :: right) = some (before ++ after) := by
  simp only [signsOf?, bind, Option.bind_eq_some_iff, pure, Option.some.injEq] at leftSigns rightSigns
  obtain ⟨lefts, leftRead, rfl⟩ := leftSigns
  obtain ⟨rights, rightRead, rfl⟩ := rightSigns
  simp [signsOf?, List.splitOn_append_cons_self, List.mapM_append, leftRead, rightRead]

namespace WireCondition

variable {condition : WireCondition}

theorem Unmarked.notMem_text (unmarked : condition.Unmarked) : '&' ∉ condition.text.toList := by
  have key := unmarked.1 '&'
  have value := unmarked.2 '&'
  have operator := avoids_operatorName condition.operator '&'
  intro member
  simp [toList_text] at member key value operator
  grind

/-- What stands before the value of a fragment with opening marks. -/
def front (condition : WireCondition) (opened : Nat) : List Char :=
  marks opened "metadata." ++
    ("metadata.".toList ++ (condition.key.toList ++ '.' :: condition.operator.name.toList))

theorem marked_eq_front (condition : WireCondition) (opened closed : Nat) :
    marks opened "metadata." ++ condition.text.toList ++ marks closed ".not=" =
      condition.front opened ++ '=' :: (condition.value.toList ++ marks closed ".not=") := by
  simp [toList_text, front]

theorem Unmarked.notMem_front (unmarked : condition.Unmarked) (opened : Nat) :
    '=' ∉ condition.front opened := by
  have key := unmarked.1 '='
  have operator := avoids_operatorName condition.operator '='
  have mark : '=' ∉ marks opened "metadata." := fun member => by simpa using mem_marks member
  simp [front] at key operator mark ⊢
  grind

theorem Unmarked.count_front (unmarked : condition.Unmarked) (opened : Nat) :
    (condition.front opened).count '.' = opened + 2 := by
  have key : condition.key.toList.count '.' = 0 :=
    List.count_eq_zero.mpr fun member => unmarked.1 '.' member (by simp)
  have operator : condition.operator.name.toList.count '.' = 0 :=
    List.count_eq_zero.mpr fun member => avoids_operatorName condition.operator '.' member (by simp)
  simp [front, List.count_append, count_marks, key, operator]

theorem Unmarked.count_marked (unmarked : condition.Unmarked) (opened closed : Nat) :
    (marks opened "metadata." ++ condition.text.toList ++ marks closed ".not=").count '=' =
      closed + 1 := by
  have front := List.count_eq_zero.mpr (unmarked.notMem_front opened)
  have value : condition.value.toList.count '=' = 0 :=
    List.count_eq_zero.mpr fun member => unmarked.2 '=' member (by simp)
  rw [marked_eq_front, List.count_append, front]
  simp [count_marks, value]

end WireCondition

theorem readFragment?_marked {condition : WireCondition} (unmarked : condition.Unmarked)
    (opened closed : Nat) :
    readFragment? (marks opened "metadata." ++ condition.text.toList ++ marks closed ".not=") =
      some (List.replicate opened .opening ++
        .condition condition :: List.replicate closed .closing) := by
  have equalSigns := unmarked.count_marked opened closed
  have dots := unmarked.count_front opened
  have before : (marks opened "metadata." ++ condition.text.toList ++
      marks closed ".not=").takeWhile (· != '=') = condition.front opened := by
    rw [WireCondition.marked_eq_front, WireCondition.takeWhile_mark (unmarked.notMem_front opened)]
  have notOpening : marks opened "metadata." ++ condition.text.toList ++ marks closed ".not=" ≠
      "metadata.".toList := by
    intro same
    rw [same] at equalSigns
    simp at equalSigns
  have opening : (marks opened "metadata.").length = 9 * opened := by
    rw [length_marks, Nat.mul_comm]
    rfl
  have closing : (marks closed ".not=").length = 5 * closed := by
    rw [length_marks, Nat.mul_comm]
    rfl
  have inner : ((marks opened "metadata." ++ condition.text.toList ++
      marks closed ".not=").drop (9 * opened)).rdrop (5 * closed) = condition.text.toList := by
    rw [List.append_assoc, ← opening, List.drop_left, List.rdrop, ← closing, List.length_append,
      Nat.add_sub_cancel, List.take_left]
  have noEquals : Avoids ['='] condition.key := unmarked.1.mono (by simp)
  have read := WireCondition.read?_text noEquals
  simp only [readFragment?, if_neg notOpening, before, dots, equalSigns, Nat.add_sub_cancel, inner,
    read]
  rfl

theorem signsOf?_marked {condition : WireCondition} (unmarked : condition.Unmarked)
    (opened closed : Nat) :
    signsOf? (marks opened "metadata." ++ condition.text.toList ++ marks closed ".not=") =
      some (List.replicate opened .opening ++
        .condition condition :: List.replicate closed .closing) := by
  have whole : '&' ∉ marks opened "metadata." ++ condition.text.toList ++ marks closed ".not=" := by
    intro member
    simp only [List.mem_append] at member
    rcases member with (opening | text) | closing
    · simpa using mem_marks opening
    · exact unmarked.notMem_text text
    · simpa using mem_marks closing
  simp only [signsOf?, List.splitOn_eq_singleton whole, List.mapM_cons, List.mapM_nil,
    readFragment?_marked unmarked]
  simp

/-- The query string of a filter in the plain style, at the start of a list or behind other
fragments. -/
def plainQuery (filter : Filter) (first : Bool) : List Char :=
  (String.intercalate "&" (Item.texts .legacy first filter.wireItems)).toList

theorem plainQuery_not_first (inner : Filter) :
    (Filter.not inner).plainQuery true =
      "metadata.".toList ++ inner.plainQuery true ++ ".not=".toList := by
  rw [plainQuery, plainQuery, ← String.toList_append, ← String.toList_append]
  rfl

theorem plainQuery_not_behind (inner : Filter) :
    (Filter.not inner).plainQuery false =
      "metadata.".toList ++ '&' :: (inner.plainQuery true ++ ".not=".toList) := by
  have same : (Filter.not inner).plainQuery false =
      ("metadata.&" ++ String.intercalate "&" (Item.texts .legacy true inner.wireItems) ++
        ".not=").toList := rfl
  rw [same]
  simp [plainQuery]

theorem plainQuery_and (left right : Filter) (first : Bool) :
    (Filter.and left right).plainQuery first =
      left.plainQuery first ++ '&' :: right.plainQuery false := by
  rw [plainQuery, wireItems_and, intercalate_texts_append]
  simp [plainQuery]

theorem allSigns_not (inner : Filter) :
    Item.allSigns (Filter.not inner).wireItems =
      .opening :: (Item.allSigns inner.wireItems ++ [.closing]) :=
  List.append_nil _

/-- The marks that negations around a filter write onto its first and its last fragment are read
with it. Behind other fragments nothing is written onto the first one. -/
theorem signsOf?_plainQuery {filter : Filter}
    (unmarked : ∀ leaf ∈ filter.leaves, leaf.wire.Unmarked) (first : Bool) (opened closed : Nat)
    (apart : first = false → opened = 0) :
    signsOf? (marks opened "metadata." ++ filter.plainQuery first ++ marks closed ".not=") =
      some (List.replicate opened .opening ++
        (Item.allSigns filter.wireItems ++ List.replicate closed .closing)) := by
  induction filter generalizing first opened closed with
  | compare | member =>
      have leaf := unmarked _ (List.mem_singleton_self _)
      exact signsOf?_marked leaf opened closed
  | not inner ih =>
      cases first with
      -- At the start both marks join those around the filter; behind a fragment only the end does.
      | true =>
          have read := ih unmarked true (opened + 1) (closed + 1) nofun
          rw [marks_succ', marks_succ, List.replicate_succ', List.replicate_succ] at read
          rw [plainQuery_not_first, allSigns_not]
          simpa only [List.append_assoc, List.cons_append, List.nil_append] using read
      | false =>
          have read := ih unmarked true 0 (closed + 1) nofun
          have mark : signsOf? "metadata.".toList = some [.opening] := rfl
          have joined := signsOf?_append mark read
          rw [marks_succ, List.replicate_succ] at joined
          rw [plainQuery_not_behind, allSigns_not, apart rfl]
          simpa only [marks, List.replicate_zero, List.flatten_nil, List.append_assoc,
            List.cons_append, List.nil_append] using joined
  | and left right leftIH rightIH | or left right leftIH rightIH =>
      have leftRead := leftIH (fun leaf member => unmarked leaf (List.mem_append_left _ member))
        first opened 0 apart
      have rightRead := rightIH (fun leaf member => unmarked leaf (List.mem_append_right _ member))
        false 0 closed fun _ => rfl
      have joined := signsOf?_append leftRead rightRead
      change signsOf? (_ ++ (Filter.and left right).plainQuery first ++ _) =
        some (_ ++ (Item.allSigns (Filter.and left right).wireItems ++ _))
      rw [plainQuery_and, wireItems_and, Item.allSigns_append]
      simpa only [marks, List.replicate_zero, List.flatten_nil, List.append_assoc,
        List.cons_append, List.nil_append, List.append_nil] using joined
  | group inner ih => exact ih unmarked first opened closed apart

/-- The items of a query string with plain negations. -/
def decodeLegacy (query : String) : Option (List (Item WireCondition)) := do
  itemsOf? (← signsOf? query.toList)

theorem decodeLegacy_compile {filter : Filter} {query : String}
    (unmarked : ∀ leaf ∈ filter.leaves, leaf.wire.Unmarked)
    (compiled : filter.compile .legacy = .ok query) : decodeLegacy query = some filter.wireItems := by
  obtain ⟨-, rfl⟩ := compile_eq_ok_iff.mp compiled
  have signs := signsOf?_plainQuery unmarked true 0 0 nofun
  simp only [marks, List.replicate_zero, List.flatten_nil, List.nil_append, List.append_nil] at signs
  rw [decodeLegacy, ← plainQuery, signs]
  exact itemsOf?_allSigns filter.wireItems

theorem wireItems_eq_of_compile_eq {left right : Filter} {query : String}
    (leftUnmarked : ∀ leaf ∈ left.leaves, leaf.wire.Unmarked)
    (rightUnmarked : ∀ leaf ∈ right.leaves, leaf.wire.Unmarked)
    (leftCompiled : left.compile .legacy = .ok query)
    (rightCompiled : right.compile .legacy = .ok query) : left.wireItems = right.wireItems :=
  Option.some.inj <| (decodeLegacy_compile leftUnmarked leftCompiled).symm.trans <|
    decodeLegacy_compile rightUnmarked rightCompiled

/-- Plain negations keep the structure of a filter: filters with the same query string have the same
items. So the negation of a conjunction is never taken for the negation of its left side alone. -/
theorem wireItems_eq_of_legacy_eq :
    (∀ (left right : Filter) (query : String),
      (∀ leaf ∈ left.leaves, leaf.wire.Unmarked) → (∀ leaf ∈ right.leaves, leaf.wire.Unmarked) →
        left.compile .legacy = .ok query → right.compile .legacy = .ok query →
          left.wireItems = right.wireItems ∧ decodeLegacy query = some left.wireItems) ∧
    ∀ (left right : Filter) (query : String),
      (∀ leaf ∈ left.leaves, leaf.wire.Unmarked) → (∀ leaf ∈ right.leaves, leaf.wire.Unmarked) →
        (Filter.not (.and left right)).compile .legacy = .ok query →
          (Filter.and (.not left) right).compile .legacy ≠ .ok query := by
  refine ⟨?_, ?_⟩
  · intro left right query leftUnmarked rightUnmarked leftCompiled rightCompiled
    exact ⟨wireItems_eq_of_compile_eq leftUnmarked rightUnmarked leftCompiled rightCompiled,
      decodeLegacy_compile leftUnmarked leftCompiled⟩
  · intro left right query leftUnmarked rightUnmarked whole part
    have unmarked : ∀ leaf ∈ left.leaves ++ right.leaves, leaf.wire.Unmarked := by
      simpa only [List.mem_append, or_imp, forall_and] using ⟨leftUnmarked, rightUnmarked⟩
    have same : (Filter.not (.and left right)).wireItems = (Filter.and (.not left) right).wireItems :=
      wireItems_eq_of_compile_eq unmarked unmarked whole part
    -- The negation of both is one item, the other filter has one for each side.
    rw [wireItems_and] at same
    exact right.wireItems_ne_nil (List.cons.inj same).2.symm

/-- A key that is spelled like a mark, a value that ends like one, and negations in negations. -/
theorem wireItems_eq_marks_spelled :
    let name : Filter := .compare "metadata" .eq (.one (.string "v1.not"))
    let year : Filter := .member "year" true (.many [.integer 2023, .integer 2024])
    let left : Filter := .and name (.not (.and (.not name) year))
    let right : Filter := .or (.group name) (.not (.group (.or (.not (.group name)) year)))
    let query := "metadata.metadata.eq=v1.not&metadata.&metadata.metadata.metadata.eq=v1.not.not=&" ++
      "metadata.year.nin=2023,2024.not="
    (∀ leaf ∈ left.leaves, leaf.wire.Unmarked) ∧ (∀ leaf ∈ right.leaves, leaf.wire.Unmarked) ∧
      left.compile .legacy = .ok query ∧ right.compile .legacy = .ok query ∧
      left.wireItems = right.wireItems ∧ decodeLegacy query = some left.wireItems ∧
      (Filter.not (.and name year)).compile .legacy =
        .ok "metadata.metadata.metadata.eq=v1.not&metadata.year.nin=2023,2024.not=" ∧
      (Filter.and (.not name) year).compile .legacy ≠
        .ok "metadata.metadata.metadata.eq=v1.not&metadata.year.nin=2023,2024.not=" := by
  intro name year left right query
  have unmarked : ∀ leaf ∈ left.leaves, leaf.wire.Unmarked := by decide
  have sides := wireItems_eq_of_legacy_eq.1 left right query unmarked (by decide) rfl rfl
  exact ⟨unmarked, by decide, rfl, rfl, sides.1, sides.2, rfl,
    wireItems_eq_of_legacy_eq.2 name year _ (by decide) (by decide) rfl⟩

end VectorSearch.Filter
