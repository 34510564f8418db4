import Mathlib.Data.List.Basic
import VectorSearch.Proofs.Filter.Items

namespace VectorSearch.Filter

/-! Query strings with wrapped negations can be read back.

`&` separates items at every depth and `not(` opens a list that the matching `)` closes, so one
pass with the open lists on a stack recovers the items, as long as no key and no value spells one
of these marks itself. The main statement is `decode_compile`.
-/

/-- None of the marks occurs in a text. -/
def Avoids (marks : List Char) (text : String) : Prop :=
  ∀ c ∈ text.toList, c ∉ marks

instance (marks : List Char) (text : String) : Decidable (Avoids marks text) :=
  List.decidableBAll (· ∉ marks) text.toList

theorem avoids_append {marks : List Char} {left right : String} :
    Avoids marks (left ++ right) ↔ Avoids marks left ∧ Avoids marks right := by
  simp only [Avoids, String.toList_append, List.mem_append, or_imp, forall_and]

theorem Avoids.mono {marks fewer : List Char} {text : String} (avoids : Avoids marks text)
    (subset : fewer ⊆ marks) : Avoids fewer text :=
  fun c member marked => avoids c member (subset marked)

namespace WireCondition

/-- Neither the key nor the value can be taken for a mark of the surrounding list, nor the key
for the end of a key. -/
def Plain (condition : WireCondition) : Prop :=
  Avoids ['&', '=', '(', ')'] condition.key ∧ Avoids ['&', '(', ')'] condition.value

instance (condition : WireCondition) : Decidable condition.Plain :=
  inferInstanceAs (Decidable (_ ∧ _))

/-- The condition of a fragment. What stands before the first `=` ends in the operator, and the
operator begins after the last dot. -/
def read? (fragment : List Char) : Option WireCondition := do
  let rest ← "metadata.".toList.isPrefixOf? fragment
  let name := rest.takeWhile (· != '=')
  let value ← (rest.dropWhile (· != '=')).tail?
  let operator ← Operator.ofName? (String.ofList (name.reverse.takeWhile (· != '.')).reverse)
  let key ← (name.reverse.dropWhile (· != '.')).tail?
  return ⟨String.ofList key.reverse, operator, String.ofList value⟩

theorem toList_text (condition : WireCondition) :
    condition.text.toList = "metadata.".toList ++
      ((condition.key.toList ++ '.' :: condition.operator.name.toList) ++
        '=' :: condition.value.toList) := by
  simp [text]

theorem avoids_operatorName (operator : Operator) :
    Avoids ['.', '&', '=', '(', ')'] operator.name := by
  cases operator <;> decide

theorem Plain.avoids_text {condition : WireCondition} (plain : condition.Plain) :
    Avoids ['&', '(', ')'] condition.text := by
  have key : Avoids ['&', '(', ')'] condition.key := plain.1.mono (by simp)
  have operator : Avoids ['&', '(', ')'] condition.operator.name :=
    (avoids_operatorName condition.operator).mono (by simp)
  simp only [text, avoids_append]
  exact ⟨⟨⟨⟨⟨by decide, key⟩, by decide⟩, operator⟩, by decide⟩, plain.2⟩

theorem bne_of_absent {mark : Char} {before : List Char} (absent : mark ∉ before) :
    ∀ c ∈ before, (c != mark) = true := by
  intro c member
  exact bne_iff_ne.mpr fun same => absent (same ▸ member)

theorem takeWhile_mark {mark : Char} {before : List Char} (absent : mark ∉ before)
    (after : List Char) : (before ++ mark :: after).takeWhile (· != mark) = before := by
  rw [List.takeWhile_append_of_pos (bne_of_absent absent)]
  simp

theorem tail?_dropWhile_mark {mark : Char} {before : List Char} (absent : mark ∉ before)
    (after : List Char) : ((before ++ mark :: after).dropWhile (· != mark)).tail? = some after := by
  rw [List.dropWhile_append_of_pos (bne_of_absent absent)]
  simp

theorem read?_text {condition : WireCondition} (noEquals : Avoids ['='] condition.key) :
    read? condition.text.toList = some condition := by
  let operator := condition.operator.name.toList
  let name := condition.key.toList ++ '.' :: operator
  have operatorAvoids := avoids_operatorName condition.operator
  have nameAvoids : '=' ∉ name := by
    intro member
    rcases List.mem_append.mp member with inKey | inRest
    · exact noEquals '=' inKey (by simp)
    · rcases List.mem_cons.mp inRest with same | inOperator
      · contradiction
      · exact operatorAvoids '=' inOperator (by simp)
  have dotless : '.' ∉ operator.reverse := by
    intro member
    exact operatorAvoids '.' (List.mem_reverse.mp member) (by simp)
  have stripped : "metadata.".toList.isPrefixOf? condition.text.toList =
      some (name ++ '=' :: condition.value.toList) := by
    rw [toList_text]
    exact List.isPrefixOf?_eq_some_iff_append_eq.mpr rfl
  have turned : name.reverse = operator.reverse ++ '.' :: condition.key.toList.reverse := by
    simp [name]
  simp only [read?, stripped, Option.bind_eq_bind, Option.bind_some, takeWhile_mark nameAvoids,
    tail?_dropWhile_mark nameAvoids, turned, takeWhile_mark dotless, tail?_dropWhile_mark dotless,
    List.reverse_reverse, operator, String.ofList_toList, Operator.ofName?_name]
  rfl

end WireCondition

/-- How far a query string has been read: the letters of the fragment begun last, the items of the
list that is open, and those of the lists around it, the latest first throughout. -/
structure Decoder where
  letters : List Char
  items : List (Item WireCondition)
  enclosing : List (List (Item WireCondition))

namespace Decoder

def start : Decoder := ⟨[], [], []⟩

/-- The items of the open list with the fragment begun last. Right after a negation there is
none. -/
def finish (decoder : Decoder) : Option (List (Item WireCondition)) :=
  if decoder.letters = [] then some decoder.items
  else do return .condition (← WireCondition.read? decoder.letters.reverse) :: decoder.items

def step (decoder : Decoder) : Char → Option Decoder
  | '&' => do return ⟨[], ← decoder.finish, decoder.enclosing⟩
  | '(' =>
      if decoder.letters = "not".toList.reverse then
        some ⟨[], [], decoder.items :: decoder.enclosing⟩
      else none
  | ')' =>
      match decoder.enclosing with
      | [] => none
      | outer :: enclosing => do
          return ⟨[], .negation (← decoder.finish).reverse :: outer, enclosing⟩
  | c => some { decoder with letters := c :: decoder.letters }

theorem step_letter {c : Char} (letter : c ∉ ['&', '(', ')']) (decoder : Decoder) :
    decoder.step c = some { decoder with letters := c :: decoder.letters } := by
  simp only [List.mem_cons, List.not_mem_nil, not_or] at letter
  obtain ⟨notAnd, notOpen, notClose, _⟩ := letter
  unfold step
  split <;> first | contradiction | rfl

theorem foldlM_letters {letters : List Char} (plain : ∀ c ∈ letters, c ∉ ['&', '(', ')'])
    (decoder : Decoder) :
    letters.foldlM step decoder =
      some { decoder with letters := letters.reverse ++ decoder.letters } := by
  induction letters generalizing decoder with
  | nil => rfl
  | cons c rest ih =>
      rw [List.foldlM_cons, step_letter (plain c (by simp))]
      have later := ih (fun next member => plain next (by simp [member]))
        { decoder with letters := c :: decoder.letters }
      simpa using later

end Decoder

/-- Wherever a list of items is expected, reading a text adds these items to those in front and
leaves the enclosing lists alone. Their last fragment may still be without an end. -/
def Reads (text : List Char) (items : List (Item WireCondition)) : Prop :=
  ∀ before enclosing, ∃ decoder,
    text.foldlM Decoder.step ⟨[], before, enclosing⟩ = some decoder ∧
      decoder.finish = some (items.reverse ++ before) ∧ decoder.enclosing = enclosing

theorem reads_condition {condition : WireCondition} (plain : condition.Plain) :
    Reads condition.text.toList [.condition condition] := by
  intro before enclosing
  have read : WireCondition.read? condition.text.toList = some condition :=
    WireCondition.read?_text (plain.1.mono (by simp))
  have nonempty : condition.text.toList ≠ [] := by
    simp [WireCondition.toList_text]
  refine ⟨_, Decoder.foldlM_letters plain.avoids_text _, ?_, rfl⟩
  simp only [Decoder.finish, List.append_nil, List.reverse_eq_nil_iff, nonempty, if_false,
    List.reverse_reverse, read]
  rfl

theorem reads_negation {text : List Char} {items : List (Item WireCondition)}
    (inner : Reads text items) :
    Reads ("not(".toList ++ text ++ ")".toList) [.negation items] := by
  intro before enclosing
  obtain ⟨decoder, run, finished, same⟩ := inner [] (before :: enclosing)
  refine ⟨⟨[], .negation items :: before, enclosing⟩, ?_, rfl, rfl⟩
  have opened : "not(".toList.foldlM Decoder.step ⟨[], before, enclosing⟩ =
      some ⟨[], [], before :: enclosing⟩ := rfl
  rw [List.foldlM_append, List.foldlM_append, opened]
  simp only [Option.bind_eq_bind, Option.bind_some, run]
  simp [Decoder.step, same, finished]

theorem reads_append {left right : List Char} {before after : List (Item WireCondition)}
    (leftReads : Reads left before) (rightReads : Reads right after) :
    Reads (left ++ '&' :: right) (before ++ after) := by
  intro front enclosing
  obtain ⟨decoder, run, finished, same⟩ := leftReads front enclosing
  obtain ⟨last, lastRun, lastFinished, lastSame⟩ := rightReads (before.reverse ++ front) enclosing
  refine ⟨last, ?_, ?_, lastSame⟩
  · rw [List.foldlM_append, run]
    simp [Decoder.step, finished, same, lastRun]
  · simpa using lastFinished

/-- The items of a query string with wrapped negations. -/
def decode (query : String) : Option (List (Item WireCondition)) := do
  let decoder ← query.toList.foldlM Decoder.step .start
  if decoder.enclosing = [] then return (← decoder.finish).reverse else none

theorem decode_of_reads {query : String} {items : List (Item WireCondition)}
    (reads : Reads query.toList items) : decode query = some items := by
  obtain ⟨decoder, run, finished, same⟩ := reads [] []
  simp [decode, Decoder.start, run, same, finished]

theorem texts_wrapped (first : Bool) (items : List (Item WireCondition)) :
    Item.texts .wrapped first items = Item.texts .wrapped true items := by
  cases items with
  | nil => rfl
  | cons item rest => cases item <;> rfl

theorem reads_wrapped {filter : Filter} (plain : ∀ leaf ∈ filter.leaves, leaf.wire.Plain) :
    Reads (String.intercalate "&" (Item.texts .wrapped true filter.wireItems)).toList
      filter.wireItems := by
  induction filter with
  | compare | member => exact reads_condition (plain _ (List.mem_singleton_self _))
  | not inner ih =>
      have wrapped := reads_negation (ih plain)
      rw [← String.toList_append, ← String.toList_append] at wrapped
      exact wrapped
  | and left right leftIH rightIH | or left right leftIH rightIH =>
      have leftReads := leftIH fun leaf member => plain leaf (List.mem_append_left _ member)
      have rightReads := rightIH fun leaf member => plain leaf (List.mem_append_right _ member)
      have joined := reads_append leftReads rightReads
      simp only [wireItems_and, wireItems_or]
      rw [intercalate_texts_append, texts_wrapped false]
      simpa using joined
  | group inner ih => exact ih plain

/-- The items of a filter can be read off its query string, so filters with the same query string
have the same items. -/
theorem decode_compile {filter : Filter} {query : String}
    (plain : ∀ leaf ∈ filter.leaves, leaf.wire.Plain)
    (compiled : filter.compile .wrapped = .ok query) : decode query = some filter.wireItems := by
  rw [compile_eq] at compiled
  cases fault : filter.fault? with
  | some reason => simp [fault] at compiled
  | none =>
      simp only [fault, Except.ok.injEq] at compiled
      rw [← compiled]
      exact decode_of_reads (reads_wrapped plain)

theorem wireItems_eq_of_wrapped_eq {left right : Filter} {query : String}
    (leftPlain : ∀ leaf ∈ left.leaves, leaf.wire.Plain)
    (rightPlain : ∀ leaf ∈ right.leaves, leaf.wire.Plain)
    (leftCompiled : left.compile .wrapped = .ok query)
    (rightCompiled : right.compile .wrapped = .ok query) :
    left.wireItems = right.wireItems ∧ decode query = some left.wireItems := by
  have read := decode_compile leftPlain leftCompiled
  refine ⟨?_, read⟩
  exact Option.some.inj (read.symm.trans (decode_compile rightPlain rightCompiled))

/-- Dots in a key, dots and `=` in a value, and a negation in a negation are no obstacle. -/
theorem wireItems_eq_nested_negation :
    let size : Filter := .compare "box.size" .eq (.one (.string "w=1.5"))
    let year : Filter := .member "year" true (.many [.integer 2023, .integer 2024])
    let left : Filter := .and size (.not (.or size (.not year)))
    let right : Filter := .or (.group size) (.not (.and (.group size) (.group (.not year))))
    let query := "metadata.box.size.eq=w=1.5&not(metadata.box.size.eq=w=1.5&" ++
      "not(metadata.year.nin=2023,2024))"
    (∀ leaf ∈ left.leaves, leaf.wire.Plain) ∧ (∀ leaf ∈ right.leaves, leaf.wire.Plain) ∧
      left.compile .wrapped = .ok query ∧ right.compile .wrapped = .ok query ∧
      left.wireItems = right.wireItems ∧ decode query = some left.wireItems :=
  ⟨by decide, by decide, rfl, rfl,
    wireItems_eq_of_wrapped_eq (by decide) (by decide) rfl rfl⟩

end VectorSearch.Filter
