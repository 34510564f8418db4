import VectorSearch.Filter.Json
import VectorSearch.Proofs.Json.Literals
import VectorSearch.Proofs.Json.Shapes

namespace VectorSearch

open Json

/-! Where the parts of a filter stand in the text that it is read from.

A filter is written as an object or as an array, and so is each filter inside of it. In either form
its parts are outlines inside of its own, and the operand of a condition is read from one of them.
-/

namespace Json

namespace Outline

/-- The value of an outline, however many arrays and objects it may nest. -/
def ReadAs (outline : Outline) (value : Json) : Prop :=
  ∃ depth, outline.value depth = .ok value

def MemberReadAs (member : Option String × Outline) (read : String × Json) : Prop :=
  member.1 = some read.1 ∧ member.2.ReadAs read.2

/-- A part of an object by its name, or of an array by its place behind the kind. -/
inductive HasPart (name : String) (place : Nat) (part : Outline) : Outline → Prop
  | named {held : List (Option String × Outline)} {closed : Bool}
      (only : held.filter (·.1 == some name) = [(some name, part)]) :
      HasPart name place part (.members held closed)
  | placed {held : List Outline} {closed : Bool} (stands : held[place + 1]? = some part) :
      HasPart name place part (.items held closed)

/-- The parts of an object or an array beside its kind, as they are read. -/
inductive HasBody : Outline → Json → Prop
  | members {held : List (Option String × Outline)} {closed : Bool}
      {members : List (String × Json)}
      (read : List.Forall₂ MemberReadAs (held.filter (·.1 != some "type")) members) :
      HasBody (.members held closed) (.obj members)
  | items {tag : Outline} {held : List Outline} {closed : Bool} {items : List Json}
      (read : List.Forall₂ ReadAs held items) : HasBody (.items (tag :: held) closed) (.arr items)

variable {part outline : Outline} {name : String}

theorem HasPart.inside {place : Nat} (has : HasPart name place part outline) :
    part.Inside outline := by
  cases has with
  | named only =>
      have present := List.mem_of_mem_filter (only ▸ List.mem_singleton_self (some name, part))
      exact .member present .self
  | placed stands => exact .item (List.mem_of_getElem? stands) .self

theorem forall₂_memberValues {depth : Nat} {held : List (Option String × Outline)}
    {members : List (String × Json)} (read : memberValues depth held = .ok members) :
    List.Forall₂ MemberReadAs held members := by
  induction held generalizing members with
  | nil =>
      cases read
      exact .nil
  | cons member rest ih =>
      obtain ⟨name, first, others, named, here, later, rfl⟩ := memberValues_cons_eq_ok_iff.mp read
      exact .cons ⟨named, depth, here⟩ (ih later)

theorem forall₂_itemValues {depth : Nat} {held : List Outline} {items : List Json}
    (read : itemValues depth held = .ok items) : List.Forall₂ ReadAs held items := by
  induction held generalizing items with
  | nil =>
      cases read
      exact .nil
  | cons item rest ih =>
      obtain ⟨first, others, here, later, rfl⟩ := itemValues_cons_eq_ok_iff.mp read
      exact .cons ⟨depth, here⟩ (ih later)

theorem ReadAs.number {numeral : Number.Numeral} {value : Json}
    (read : (Outline.number numeral).ReadAs value) :
    (∃ n, numeral.read? = some (.int n) ∧ value = .int n) ∨
      ∃ x, numeral.read? = some (.float x) ∧ value = .float x := by
  obtain ⟨depth, read⟩ := read
  rw [Outline.value] at read
  split at read
  next n found =>
    cases read
    exact .inl ⟨n, found, rfl⟩
  next x found =>
    cases read
    exact .inr ⟨x, found, rfl⟩
  next => cases read

theorem ReadAs.exists_items {held : List Outline} {closed : Bool} {value : Json}
    (read : (Outline.items held closed).ReadAs value) :
    ∃ items, value = .arr items ∧ List.Forall₂ ReadAs held items := by
  obtain ⟨_ | depth, read⟩ := read
  · cases read
  · obtain ⟨items, found, -, rfl⟩ := value_items_eq_ok_iff.mp read
    exact ⟨items, rfl, forall₂_itemValues found⟩

theorem ReadAs.exists_members {held : List (Option String × Outline)} {closed : Bool} {value : Json}
    (read : (Outline.members held closed).ReadAs value) :
    ∃ members, value = .obj members ∧ List.Forall₂ MemberReadAs held members := by
  obtain ⟨_ | depth, read⟩ := read
  · cases read
  · obtain ⟨members, found, -, rfl⟩ := value_members_eq_ok_iff.mp read
    exact ⟨members, rfl, forall₂_memberValues found⟩

theorem ReadAs.items {items : List Json} (read : outline.ReadAs (.arr items)) :
    ∃ held closed, outline = .items held closed ∧ List.Forall₂ ReadAs held items := by
  cases outline with
  | items held closed =>
      obtain ⟨_, ⟨⟩, each⟩ := read.exists_items
      exact ⟨held, closed, rfl, each⟩
  | members => obtain ⟨_, ⟨⟩, -⟩ := read.exists_members
  | number numeral => obtain ⟨_, -, ⟨⟩⟩ | ⟨_, -, ⟨⟩⟩ := read.number
  | text content =>
      obtain ⟨_, read⟩ := read
      cases content <;> cases read
  | missing | null | bool =>
      obtain ⟨_, ⟨⟩⟩ := read

theorem ReadAs.members {members : List (String × Json)} (read : outline.ReadAs (.obj members)) :
    ∃ held closed, outline = .members held closed ∧ List.Forall₂ MemberReadAs held members := by
  cases outline with
  | members held closed =>
      obtain ⟨_, ⟨⟩, each⟩ := read.exists_members
      exact ⟨held, closed, rfl, each⟩
  | items => obtain ⟨_, ⟨⟩, -⟩ := read.exists_items
  | number numeral => obtain ⟨_, -, ⟨⟩⟩ | ⟨_, -, ⟨⟩⟩ := read.number
  | text content =>
      obtain ⟨_, read⟩ := read
      cases content <;> cases read
  | missing | null | bool =>
      obtain ⟨_, ⟨⟩⟩ := read

theorem forall₂_filter {held : List (Option String × Outline)} {members : List (String × Json)}
    (read : List.Forall₂ MemberReadAs held members) (test : Option String → Bool) :
    List.Forall₂ MemberReadAs (held.filter (test ·.1)) (members.filter (test <| some ·.1)) := by
  refine List.rel_filter (fun member value same => ?_) read
  dsimp only
  rw [same.1]

/-- The one member of a name is written as the one of that name beside the kind. -/
theorem hasPart_of_member {held : List (Option String × Outline)} {closed : Bool}
    {members : List (String × Json)} {key : String} {value : Json} (place : Nat)
    (read : List.Forall₂ MemberReadAs (held.filter (·.1 != some "type")) members)
    (single : members.filter (·.1 == name) = [(key, value)]) (other : name ≠ "type") :
    ∃ part, HasPart name place part (.members held closed) ∧ part.ReadAs value := by
  have kept : (held.filter (·.1 != some "type")).filter (·.1 == some name) =
      held.filter (·.1 == some name) := by
    rw [List.filter_filter]
    refine List.filter_congr fun member _ => ?_
    by_cases here : member.1 = some name
    · simp [here, other]
    · simp [here]
  have present : (key, value) ∈ members.filter (·.1 == name) :=
    single ▸ List.mem_singleton_self _
  have key_eq : key = name := eq_of_beq (List.mem_filter.mp present).2
  have chosen := forall₂_filter read (· == some name)
  have single : members.filter (some ·.1 == some name) = [(key, value)] := single
  rw [kept, single] at chosen
  obtain ⟨⟨label, part⟩, rest, ⟨labelled, readAs⟩, none, only⟩ :=
    List.forall₂_cons_right_iff.mp chosen
  obtain rfl : label = some name := key_eq ▸ labelled
  rw [List.forall₂_nil_right_iff.mp none] at only
  exact ⟨part, .named only, readAs⟩

theorem hasPart_of_item {tag : Outline} {held : List Outline} {closed : Bool} {items : List Json}
    {value : Json} {place : Nat} (read : List.Forall₂ ReadAs held items)
    (here : items[place]? = some value) :
    ∃ part, HasPart name place part (.items (tag :: held) closed) ∧ part.ReadAs value := by
  obtain ⟨below, rfl⟩ := List.getElem?_eq_some_iff.mp here
  have room := read.length_eq ▸ below
  exact ⟨held[place], .placed (List.getElem?_eq_getElem room), read.get room below⟩

/-- A part that a body is found to have stands in the outline. -/
theorem HasBody.hasPart {body value : Json} {names : List String} {parts : List (Option Json)}
    (has : outline.HasBody body) (found : body.parts? names = some parts) (place : Nat)
    (named : names[place]? = some name) (given : parts[place]? = some (some value))
    (other : name ≠ "type") : ∃ part, HasPart name place part outline ∧ part.ReadAs value := by
  cases has with
  | @members held closed members read =>
      obtain ⟨low, rfl⟩ := List.getElem?_eq_some_iff.mp named
      obtain ⟨low', same⟩ := List.getElem?_eq_some_iff.mp given
      have one := (mapM_eq_some_iff.mp found).get low low'
      rw [List.get_eq_getElem, List.get_eq_getElem, same] at one
      split at one
      next => cases one
      next key value single =>
        cases one
        exact hasPart_of_member place read single other
      next => cases one
  | @items tag held closed items read =>
      rw [parts?] at found
      split at found
      next =>
        cases found
        rw [List.getElem?_append] at given
        split at given
        next =>
          rw [List.getElem?_map] at given
          obtain ⟨item, here, same⟩ := Option.map_eq_some_iff.mp given
          exact hasPart_of_item read (Option.some.inj same ▸ here)
        next =>
          rw [List.getElem?_replicate] at given
          split at given <;> cases given
      next => cases found

end Outline

end Json

namespace Filter

/-- A filter whose operands stand at their places in an outline, each in a relation to its
condition. -/
inductive Written (P : Outline → Condition → Prop) : Outline → Filter → Prop
  | compare {outline part : Outline} {key : String} {operator : Operator} {operand : Operand}
      (has : Outline.HasPart "value" 2 part outline)
      (holds : P part (.compare key operator operand)) :
      Written P outline (.compare key operator operand)
  | member {outline part : Outline} {key : String} {negated : Bool} {operand : Operand}
      (has : Outline.HasPart "values" 2 part outline)
      (holds : P part (.member key negated operand)) :
      Written P outline (.member key negated operand)
  | not {outline part : Outline} {inner : Filter} (has : Outline.HasPart "inner" 0 part outline)
      (written : Written P part inner) : Written P outline (.not inner)
  | and {outline first second : Outline} {left right : Filter}
      (hasLeft : Outline.HasPart "left" 0 first outline)
      (hasRight : Outline.HasPart "right" 1 second outline) (writtenLeft : Written P first left)
      (writtenRight : Written P second right) : Written P outline (.and left right)
  | or {outline first second : Outline} {left right : Filter}
      (hasLeft : Outline.HasPart "left" 0 first outline)
      (hasRight : Outline.HasPart "right" 1 second outline) (writtenLeft : Written P first left)
      (writtenRight : Written P second right) : Written P outline (.or left right)
  | group {outline part : Outline} {inner : Filter} (has : Outline.HasPart "inner" 0 part outline)
      (written : Written P part inner) : Written P outline (.group inner)

namespace Condition

def operand : Condition → Operand
  | .compare _ _ operand => operand
  | .member _ _ operand => operand

/-- The operand of a condition is what a value is that an outline is read as. -/
def ReadFrom (outline : Outline) (condition : Condition) : Prop :=
  ∃ value, outline.ReadAs value ∧ Operand.ofJson? value = some condition.operand

end Condition

variable {outline : Outline} {filter : Filter} {depth : Nat}

theorem Written.mono {P Q : Outline → Condition → Prop} (written : Written P outline filter)
    (weaken : ∀ part condition, part.Inside outline → condition ∈ filter.leaves → P part condition →
      Q part condition) : Written Q outline filter := by
  induction written with
  | compare has holds => exact .compare has (weaken _ _ has.inside (.head _) holds)
  | member has holds => exact .member has (weaken _ _ has.inside (.head _) holds)
  | not has _ ih =>
      exact .not has (ih fun part condition inside leaf =>
        weaken part condition (inside.trans has.inside) leaf)
  | group has _ ih =>
      exact .group has (ih fun part condition inside leaf =>
        weaken part condition (inside.trans has.inside) leaf)
  | and hasLeft hasRight _ _ ihLeft ihRight =>
      refine .and hasLeft hasRight (ihLeft fun part condition inside leaf => ?_)
        (ihRight fun part condition inside leaf => ?_)
      · exact weaken part condition (inside.trans hasLeft.inside) (List.mem_append_left _ leaf)
      · exact weaken part condition (inside.trans hasRight.inside) (List.mem_append_right _ leaf)
  | or hasLeft hasRight _ _ ihLeft ihRight =>
      refine .or hasLeft hasRight (ihLeft fun part condition inside leaf => ?_)
        (ihRight fun part condition inside leaf => ?_)
      · exact weaken part condition (inside.trans hasLeft.inside) (List.mem_append_left _ leaf)
      · exact weaken part condition (inside.trans hasRight.inside) (List.mem_append_right _ leaf)

abbrev WrittenAsRead : Outline → Filter → Prop :=
  Written fun part condition => condition.ReadFrom part

section Bodies

variable {inner : Json → Option Filter} {body : Json} (has : outline.HasBody body)
  (nested : ∀ part value other, Outline.ReadAs part value → inner value = some other →
    WrittenAsRead part other)

include has nested

theorem written_part {names : List String} {parts : List (Option Json)} {name : String}
    {slot : Option Json} {other : Filter} (found : body.parts? names = some parts) (place : Nat)
    (named : names[place]? = some name) (given : parts[place]? = some slot)
    (read : slot.bind inner = some other) (notKind : name ≠ "type") :
    ∃ part, Outline.HasPart name place part outline ∧ WrittenAsRead part other := by
  obtain ⟨value, rfl, taken⟩ := Option.bind_eq_some_iff.mp read
  obtain ⟨part, held, readAs⟩ := has.hasPart found place named given notKind
  exact ⟨part, held, nested part value other readAs taken⟩

/-- A body is a written filter if what reads the filters inside of it finds written ones. -/
theorem written_ofBody? {kind : Kind} (read : ofBody? inner kind body = some filter) :
    WrittenAsRead outline filter := by
  cases kind with
  | comparison | setMembership =>
      obtain ⟨parts, found, read⟩ := Option.bind_eq_some_iff.mp read
      split at read
      next =>
        obtain ⟨_, -, read⟩ := Option.bind_eq_some_iff.mp read
        obtain ⟨_, -, read⟩ := Option.bind_eq_some_iff.mp read
        obtain ⟨_, taken, ⟨⟩⟩ := Option.bind_eq_some_iff.mp read
        obtain ⟨value, rfl, denoted⟩ := Option.bind_eq_some_iff.mp taken
        obtain ⟨part, held, readAs⟩ := has.hasPart found 2 rfl rfl (by decide)
        constructor
        · exact held
        · exact ⟨value, readAs, denoted⟩
      next => cases read
  | negation | group =>
      obtain ⟨parts, found, read⟩ := Option.bind_eq_some_iff.mp read
      split at read
      next =>
        obtain ⟨_, taken, ⟨⟩⟩ := Option.bind_eq_some_iff.mp read
        obtain ⟨part, held, written⟩ := written_part has nested found 0 rfl rfl taken (by decide)
        constructor
        · exact held
        · exact written
      next => cases read
  | conjunction | disjunction =>
      obtain ⟨parts, found, read⟩ := Option.bind_eq_some_iff.mp read
      split at read
      next =>
        obtain ⟨_, taken, read⟩ := Option.bind_eq_some_iff.mp read
        obtain ⟨_, taken', ⟨⟩⟩ := Option.bind_eq_some_iff.mp read
        obtain ⟨first, heldFirst, writtenFirst⟩ :=
          written_part has nested found 0 rfl rfl taken (by decide)
        obtain ⟨second, heldSecond, writtenSecond⟩ :=
          written_part has nested found 1 rfl rfl taken' (by decide)
        constructor
        · exact heldFirst
        · exact heldSecond
        · exact writtenFirst
        · exact writtenSecond
      next => cases read

end Bodies

theorem written_ofJson? {value : Json} (readAs : outline.ReadAs value)
    (found : ofJson? depth value = some filter) : WrittenAsRead outline filter := by
  induction depth generalizing outline value filter with
  | zero => cases found
  | succ depth ih =>
      have nested : ∀ part value other, Outline.ReadAs part value →
          ofJson? depth value = some other → WrittenAsRead part other :=
        fun _ _ _ readAs found => ih readAs found
      unfold ofJson? at found
      split at found
      next depth' members same =>
        cases same
        split at found
        next =>
          obtain ⟨kind, -, found⟩ := Option.bind_eq_some_iff.mp found
          obtain ⟨held, closed, rfl, read⟩ := readAs.members
          have body := Outline.forall₂_filter read (· != some "type")
          exact written_ofBody? (.members body) nested found
        next => cases found
      next depth' tag items same =>
        cases same
        obtain ⟨kind, -, found⟩ := Option.bind_eq_some_iff.mp found
        obtain ⟨held, closed, rfl, read⟩ := readAs.items
        obtain ⟨first, rest, -, body, rfl⟩ := List.forall₂_cons_right_iff.mp read
        exact written_ofBody? (.items body) nested found
      next => cases found

/-- All members but the kind are kept, each with its value. -/
theorem foldlM_readMember_eq_ok {held : List (Option String × Outline)} {kind found : Option Kind}
    {taken members : List (String × Json)}
    (folded : held.foldlM (readMember depth) (kind, taken) = .ok (found, members)) :
    ∃ later, members = taken ++ later ∧
      List.Forall₂ Outline.MemberReadAs (held.filter (·.1 != some "type")) later := by
  induction held generalizing kind taken with
  | nil =>
      cases folded
      exact ⟨[], (List.append_nil _).symm, .nil⟩
  | cons member rest ih =>
      obtain ⟨⟨kind', taken'⟩, here, folded⟩ := bind_eq_ok_iff.mp folded
      obtain ⟨later, rfl, read⟩ := ih folded
      obtain ⟨_ | key, value⟩ := member
      · cases here
      · rw [readMember] at here
        split at here
        next isKind =>
          split at here
          next => cases here
          next =>
            obtain ⟨_, -, ⟨⟩⟩ := bind_eq_ok_iff.mp here
            refine ⟨later, rfl, ?_⟩
            rw [List.filter_cons_of_neg (by simp [isKind])]
            exact read
        next isPart =>
          obtain ⟨json, valued, ⟨⟩⟩ := bind_eq_ok_iff.mp here
          refine ⟨(key, json) :: later, List.append_assoc _ _ _, ?_⟩
          rw [List.filter_cons_of_pos (by simp [isPart])]
          exact .cons ⟨rfl, depth, valued⟩ read

/-- What is read as a filter is written where the filter says. -/
theorem written_of_shape (read : shape depth outline = .ok filter) :
    WrittenAsRead outline filter := by
  unfold shape at read
  extract_lets finish at read
  have written : ∀ taken : Kind × Json, finish taken = .ok filter → outline.HasBody taken.2 →
      WrittenAsRead outline filter := by
    rintro ⟨kind, body⟩ finished body
    dsimp only [finish] at finished
    split at finished
    next found =>
      cases finished
      exact written_ofBody? body (fun _ _ _ readAs found => written_ofJson? readAs found) found
    next => cases finished
  split at read
  next => cases read
  next => cases read
  next held closed depth =>
    obtain ⟨⟨kind, members⟩, folded, read⟩ := bind_eq_ok_iff.mp read
    obtain ⟨later, rfl, body⟩ := foldlM_readMember_eq_ok folded
    dsimp only at read
    split at read
    next => cases read
    next =>
      split at read
      next kind => exact written (kind, .obj _) read (.members body)
      next => cases read
  next => cases read
  next tag rest closed depth =>
    obtain ⟨kind, -, read⟩ := bind_eq_ok_iff.mp read
    obtain ⟨items, valued, read⟩ := bind_eq_ok_iff.mp read
    split at read
    next => exact written (kind, .arr items) read (.items (Outline.forall₂_itemValues valued))
    next => cases read
  next => cases read

end Filter

end VectorSearch
