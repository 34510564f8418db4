import Mathlib.Data.List.Forall2
import VectorSearch.Json.Shape
import VectorSearch.Proofs.Json.Printing

namespace VectorSearch.Json

open Number

/-! What is read back from a printed value.

A value whose numbers are read back from their own texts is read back from its text. The same value,
but for the order of members, is read from any text that is alike: one that names the members of
objects in another order, or spells numerals in another way that is read alike.
-/

/-- The same value, whatever the order of the members of objects is. -/
inductive Same : Json → Json → Prop
  | refl (value : Json) : Same value value
  | arr {items others : List Json} (each : List.Forall₂ Same items others) :
      Same (.arr items) (.arr others)
  | obj {members ordered others : List (String × Json)}
      (keys : members.map Prod.fst = ordered.map Prod.fst)
      (each : List.Forall₂ Same (members.map Prod.snd) (ordered.map Prod.snd))
      (reordered : ordered.Perm others) : Same (.obj members) (.obj others)

/-- The outlines of two texts for the same value. -/
inductive Outline.Alike : Outline → Outline → Prop
  | refl (outline : Outline) : Alike outline outline
  | number {numeral other : Numeral} (same : numeral.read? = other.read?) :
      Alike (.number numeral) (.number other)
  | items {held others : List Outline} (closed : Bool) (each : List.Forall₂ Alike held others) :
      Alike (.items held closed) (.items others closed)
  | members {held ordered others : List (Option String × Outline)} (closed : Bool)
      (keys : held.map Prod.fst = ordered.map Prod.fst)
      (each : List.Forall₂ Alike (held.map Prod.snd) (ordered.map Prod.snd))
      (reordered : ordered.Perm others) : Alike (.members held closed) (.members others closed)

theorem Same.exists_members {members : List (String × Json)} {other : Json}
    (same : (Json.obj members).Same other) :
    ∃ others, other = .obj others ∧ (members.map Prod.fst).Perm (others.map Prod.fst) := by
  cases same with
  | refl => exact ⟨members, rfl, .refl _⟩
  | @obj _ ordered others keys each reordered =>
      exact ⟨others, rfl, keys ▸ reordered.map Prod.fst⟩

namespace Outline

theorem alike_refl_each (held : List Outline) : List.Forall₂ Alike held held :=
  List.forall₂_same.mpr fun item _ => .refl item

theorem Alike.exists_items {held : List Outline} {closed : Bool} {other : Outline}
    (alike : (Outline.items held closed).Alike other) :
    ∃ others, other = .items others closed ∧ List.Forall₂ Alike held others := by
  cases alike with
  | refl => exact ⟨held, rfl, alike_refl_each held⟩
  | items closed each => exact ⟨_, rfl, each⟩

theorem members_alike {held ordered : List (Option String × Outline)}
    (keys : held.map Prod.fst = ordered.map Prod.fst)
    (each : List.Forall₂ Alike (held.map Prod.snd) (ordered.map Prod.snd)) :
    List.Forall₂ (fun member other => member.1 = other.1 ∧ member.2.Alike other.2)
      held ordered := by
  induction held generalizing ordered with
  | nil =>
      rw [List.map_eq_nil_iff.mp keys.symm]
      exact .nil
  | cons member rest ih =>
      obtain ⟨other, others, rfl, key, keysRest⟩ := List.map_eq_cons_iff.mp keys.symm
      obtain ⟨here, later⟩ := List.forall₂_cons.mp each
      exact .cons ⟨key.symm, here⟩ (ih keysRest.symm later)

theorem Alike.exists_members {held : List (Option String × Outline)} {closed : Bool}
    {other : Outline} (alike : (Outline.members held closed).Alike other) :
    ∃ ordered others, other = .members others closed ∧
      List.Forall₂ (fun member other => member.1 = other.1 ∧ member.2.Alike other.2)
        held ordered ∧ ordered.Perm others := by
  cases alike with
  | refl => exact ⟨held, held, rfl, members_alike rfl (alike_refl_each _), .refl _⟩
  | members closed keys each reordered => exact ⟨_, _, rfl, members_alike keys each, reordered⟩

theorem Alike.text_eq {content : Option String} {other : Outline}
    (alike : (Outline.text content).Alike other) : other = .text content := by
  cases alike
  rfl

end Outline

theorem bind_eq_ok_iff {first : Except ε α} {next : α → Except ε β} {result : β} :
    first >>= next = .ok result ↔ ∃ value, first = .ok value ∧ next value = .ok result := by
  cases first <;> simp [bind, Except.bind]

theorem isOk_iff_exists {result : Except ε α} :
    result.isOk = true ↔ ∃ value, result = .ok value := by
  cases result <;> simp [Except.isOk, Except.toBool]

namespace Outline

variable {depth : Nat}

theorem memberValues_cons_eq_ok_iff {key : Option String} {value : Outline}
    {rest : List (Option String × Outline)} {read : List (String × Json)} :
    memberValues depth ((key, value) :: rest) = .ok read ↔
      ∃ name first others, key = some name ∧ value.value depth = .ok first ∧
        memberValues depth rest = .ok others ∧ read = (name, first) :: others := by
  cases key with
  | none => simp [memberValues]
  | some name =>
      simp only [memberValues, bind_eq_ok_iff]
      constructor
      · rintro ⟨first, here, others, later, ⟨⟩⟩
        exact ⟨name, first, others, rfl, here, later, rfl⟩
      · rintro ⟨_, first, others, ⟨⟩, here, later, rfl⟩
        exact ⟨first, here, others, later, rfl⟩

theorem itemValues_cons_eq_ok_iff {item : Outline} {rest : List Outline} {read : List Json} :
    itemValues depth (item :: rest) = .ok read ↔
      ∃ first others, item.value depth = .ok first ∧
        itemValues depth rest = .ok others ∧ read = first :: others := by
  simp only [itemValues, bind_eq_ok_iff]
  constructor
  · rintro ⟨first, here, others, later, ⟨⟩⟩
    exact ⟨first, others, here, later, rfl⟩
  · rintro ⟨first, others, here, later, rfl⟩
    exact ⟨first, here, others, later, rfl⟩

theorem value_items_eq_ok_iff {held : List Outline} {closed : Bool} {read : Json} :
    (Outline.items held closed).value (depth + 1) = .ok read ↔
      ∃ values, itemValues depth held = .ok values ∧ closed = true ∧ read = .arr values := by
  simp only [Outline.value, bind_eq_ok_iff]
  cases closed <;> simp [eq_comm]

theorem value_members_eq_ok_iff {held : List (Option String × Outline)} {closed : Bool}
    {read : Json} :
    (Outline.members held closed).value (depth + 1) = .ok read ↔
      ∃ values, memberValues depth held = .ok values ∧ closed = true ∧ read = .obj values := by
  simp only [Outline.value, bind_eq_ok_iff]
  cases closed <;> simp [eq_comm]

theorem memberValues_reordered {held others : List (Option String × Outline)}
    (reordered : held.Perm others) {values : List (String × Json)}
    (read : memberValues depth held = .ok values) :
    ∃ reread, memberValues depth others = .ok reread ∧ values.Perm reread := by
  induction reordered generalizing values with
  | nil => exact ⟨values, read, .refl _⟩
  | cons member _ ih =>
      obtain ⟨name, first, rest, named, here, later, rfl⟩ := memberValues_cons_eq_ok_iff.mp read
      obtain ⟨reread, found, permuted⟩ := ih later
      exact ⟨(name, first) :: reread,
        memberValues_cons_eq_ok_iff.mpr ⟨name, first, reread, named, here, found, rfl⟩,
        permuted.cons _⟩
  | swap member other rest =>
      obtain ⟨name, first, _, named, here, later, rfl⟩ := memberValues_cons_eq_ok_iff.mp read
      obtain ⟨name', second, others, named', there, last, rfl⟩ :=
        memberValues_cons_eq_ok_iff.mp later
      exact ⟨(name', second) :: (name, first) :: others,
        memberValues_cons_eq_ok_iff.mpr ⟨name', second, _, named', there,
          memberValues_cons_eq_ok_iff.mpr ⟨name, first, others, named, here, last, rfl⟩, rfl⟩,
        .swap _ _ _⟩
  | trans _ _ ih ih' =>
      obtain ⟨middle, found, permuted⟩ := ih read
      obtain ⟨reread, found', permuted'⟩ := ih' found
      exact ⟨reread, found', permuted.trans permuted'⟩

mutual

theorem value_alike (outline : Outline) {depth : Nat} {other : Outline}
    (alike : outline.Alike other) {value : Json} (read : outline.value depth = .ok value) :
    ∃ reread, other.value depth = .ok reread ∧ value.Same reread := by
  match outline, alike with
  | outline, .refl _ => exact ⟨value, read, .refl value⟩
  | .number numeral, .number same =>
      simp only [Outline.value] at read ⊢
      rw [← same]
      exact ⟨value, read, .refl value⟩
  | .items held _, .items closed each =>
      cases depth with
      | zero => cases read
      | succ depth =>
          obtain ⟨values, found, rfl, rfl⟩ := value_items_eq_ok_iff.mp read
          obtain ⟨reread, found', same⟩ := itemValues_alike held each found
          exact ⟨.arr reread, value_items_eq_ok_iff.mpr ⟨reread, found', rfl, rfl⟩, .arr same⟩
  | .members held _, .members closed keys each reordered =>
      cases depth with
      | zero => cases read
      | succ depth =>
          obtain ⟨values, found, rfl, rfl⟩ := value_members_eq_ok_iff.mp read
          -- First the members as they stand, each read from its other text, then their new order.
          obtain ⟨ordered, found', keys', same⟩ := memberValues_alike held keys each found
          obtain ⟨reread, found'', permuted⟩ := memberValues_reordered reordered found'
          exact ⟨.obj reread, value_members_eq_ok_iff.mpr ⟨reread, found'', rfl, rfl⟩,
            .obj keys' same permuted⟩

theorem itemValues_alike (held : List Outline) {depth : Nat} {others : List Outline}
    (alike : List.Forall₂ Alike held others) {values : List Json}
    (read : itemValues depth held = .ok values) :
    ∃ reread, itemValues depth others = .ok reread ∧ List.Forall₂ Same values reread := by
  match held, alike with
  | [], .nil =>
      cases read
      exact ⟨[], rfl, .nil⟩
  | item :: rest, .cons here later =>
      obtain ⟨first, remaining, found, foundRest, rfl⟩ := itemValues_cons_eq_ok_iff.mp read
      obtain ⟨reread, found', same⟩ := value_alike item here found
      obtain ⟨rereadRest, foundRest', sameRest⟩ := itemValues_alike rest later foundRest
      exact ⟨reread :: rereadRest,
        itemValues_cons_eq_ok_iff.mpr ⟨reread, rereadRest, found', foundRest', rfl⟩,
        .cons same sameRest⟩

theorem memberValues_alike (held : List (Option String × Outline)) {depth : Nat}
    {others : List (Option String × Outline)} (keys : held.map Prod.fst = others.map Prod.fst)
    (alike : List.Forall₂ Alike (held.map Prod.snd) (others.map Prod.snd))
    {values : List (String × Json)} (read : memberValues depth held = .ok values) :
    ∃ reread, memberValues depth others = .ok reread ∧
      values.map Prod.fst = reread.map Prod.fst ∧
      List.Forall₂ Same (values.map Prod.snd) (reread.map Prod.snd) := by
  match held, others with
  | [], [] =>
      cases read
      exact ⟨[], rfl, rfl, .nil⟩
  | [], _ :: _ => cases keys
  | _ :: _, [] => cases keys
  | (key, value) :: rest, (key', value') :: others =>
      obtain ⟨rfl, keysRest⟩ := List.cons.inj keys
      obtain ⟨here, later⟩ := List.forall₂_cons.mp alike
      obtain ⟨name, first, remaining, named, found, foundRest, rfl⟩ :=
        memberValues_cons_eq_ok_iff.mp read
      obtain ⟨reread, found', same⟩ := value_alike value here found
      obtain ⟨rereadRest, foundRest', sameKeys, sameRest⟩ :=
        memberValues_alike rest keysRest later foundRest
      exact ⟨(name, reread) :: rereadRest,
        memberValues_cons_eq_ok_iff.mpr ⟨name, reread, rereadRest, named, found', foundRest', rfl⟩,
        congrArg (name :: ·) sameKeys, .cons same sameRest⟩

end

end Outline

theorem readWith_of_outline {reader : Nat → Outline → Except Refusal α} {text : String}
    {said : Outline} (whole : outline text = (said, true)) :
    readWith reader text = reader depthLimit said := by
  rw [readWith, whole]
  dsimp only
  cases reader depthLimit said <;> rfl

theorem readWith_eq_ok_iff {reader : Nat → Outline → Except Refusal α} {text : String} {value : α} :
    readWith reader text = .ok value ↔
      ∃ said, outline text = (said, true) ∧ reader depthLimit said = .ok value := by
  rcases whole : outline text with ⟨said, _ | _⟩
  · rw [readWith, whole]
    dsimp only
    cases reader depthLimit said <;> simp [bind, Except.bind]
  · rw [readWith_of_outline whole]
    simp

theorem readWith_print (reader : Nat → Outline → Except Refusal α) (value : Json) :
    readWith reader value.print = reader depthLimit value.outlined :=
  readWith_of_outline (outline_print value)

mutual

/-- Every number in a value is one that a text can hold, and is read back from its own text. -/
def ReadsBack : Json → Prop
  | .int n => Int64.minValue.toInt ≤ n ∧ n < UInt64.size
  | .float x => parse (print (.float x)) = .ok (.float x)
  | .single _ => False
  | .arr items => ReadsBackItems items
  | .obj members => ReadsBackMembers members
  | _ => True

def ReadsBackItems : List Json → Prop
  | [] => True
  | item :: rest => item.ReadsBack ∧ ReadsBackItems rest

def ReadsBackMembers : List (String × Json) → Prop
  | [] => True
  | (_, value) :: rest => value.ReadsBack ∧ ReadsBackMembers rest

end

theorem value_floatOutline (format : BinaryFormat) (range : PositionalRange) (code : Nat)
    (negative : Bool) (depth depth' : Nat) :
    (floatOutline format range code negative).value depth =
      (floatOutline format range code negative).value depth' := by
  rw [floatOutline]
  split <;> rfl

mutual

theorem value_outlined (value : Json) {depth : Nat} (readsBack : value.ReadsBack)
    (fits : value.nesting ≤ depth) : value.outlined.value depth = .ok value := by
  match value with
  | .null => rfl
  | .bool _ => rfl
  | .int n =>
      simp only [outlined, Outline.value, Numeral.read?_ofInt readsBack.1 readsBack.2]
  | .float x =>
      have read : (Json.float x).outlined.value depthLimit = .ok (.float x) :=
        (readWith_print Outline.value (.float x)).symm.trans readsBack
      exact (value_floatOutline ..).trans read
  | .single _ => exact readsBack.elim
  | .str _ => rfl
  | .arr items =>
      obtain ⟨room, rfl⟩ : ∃ room, depth = room + 1 :=
        Nat.exists_eq_add_one.mpr (Nat.lt_of_lt_of_le (Nat.succ_pos _) fits)
      exact Outline.value_items_eq_ok_iff.mpr
        ⟨items, itemValues_outlined items readsBack (Nat.le_of_succ_le_succ fits), rfl, rfl⟩
  | .obj members =>
      obtain ⟨room, rfl⟩ : ∃ room, depth = room + 1 :=
        Nat.exists_eq_add_one.mpr (Nat.lt_of_lt_of_le (Nat.succ_pos _) fits)
      exact Outline.value_members_eq_ok_iff.mpr
        ⟨members, memberValues_outlined members readsBack (Nat.le_of_succ_le_succ fits), rfl, rfl⟩

theorem itemValues_outlined (items : List Json) {depth : Nat} (readsBack : ReadsBackItems items)
    (fits : nestingItems items ≤ depth) :
    Outline.itemValues depth (outlinedItems items) = .ok items := by
  match items with
  | [] => rfl
  | item :: rest =>
      have here := value_outlined item readsBack.1 (Nat.max_le.mp fits).1
      have later := itemValues_outlined rest readsBack.2 (Nat.max_le.mp fits).2
      exact Outline.itemValues_cons_eq_ok_iff.mpr ⟨item, rest, here, later, rfl⟩

theorem memberValues_outlined (members : List (String × Json)) {depth : Nat}
    (readsBack : ReadsBackMembers members) (fits : nestingMembers members ≤ depth) :
    Outline.memberValues depth (outlinedMembers members) = .ok members := by
  match members with
  | [] => rfl
  | (key, value) :: rest =>
      have here := value_outlined value readsBack.1 (Nat.max_le.mp fits).1
      have later := memberValues_outlined rest readsBack.2 (Nat.max_le.mp fits).2
      exact Outline.memberValues_cons_eq_ok_iff.mpr ⟨key, value, rest, rfl, here, later, rfl⟩

end

theorem nesting_le_nestingMembers {member : String × Json} {members : List (String × Json)}
    (present : member ∈ members) : member.2.nesting ≤ nestingMembers members := by
  induction present with
  | head rest => exact Nat.le_max_left ..
  | tail other _ ih => exact ih.trans (Nat.le_max_right ..)

theorem outlinedMembers_append (members others : List (String × Json)) :
    outlinedMembers (members ++ others) = outlinedMembers members ++ outlinedMembers others := by
  induction members with
  | nil => rfl
  | cons first rest ih => exact congrArg (_ :: ·) ih

theorem nestingMembers_append (members others : List (String × Json)) :
    nestingMembers (members ++ others) = max (nestingMembers members) (nestingMembers others) := by
  induction members with
  | nil => exact (Nat.zero_max _).symm
  | cons first rest ih => rw [List.cons_append, nestingMembers, nestingMembers, ih, Nat.max_assoc]

/-- A value whose numbers are read back is read back. -/
theorem parse_print {value : Json} (readsBack : value.ReadsBack)
    (fits : value.nesting ≤ depthLimit) : parse value.print = .ok value := by
  rw [parse, readWith_print, value_outlined value readsBack fits]

end VectorSearch.Json
