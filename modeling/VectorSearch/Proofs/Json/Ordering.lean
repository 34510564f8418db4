import VectorSearch.Proofs.Json.Shapes

namespace VectorSearch.Json

open Number

mutual

/-- No object gives a key twice. -/
def Distinct : Json → Prop
  | .arr items => DistinctItems items
  | .obj members => (members.map Prod.fst).Nodup ∧ DistinctMembers members
  | _ => True

def DistinctItems : List Json → Prop
  | [] => True
  | item :: rest => item.Distinct ∧ DistinctItems rest

def DistinctMembers : List (String × Json) → Prop
  | [] => True
  | (_, value) :: rest => value.Distinct ∧ DistinctMembers rest

end

theorem orderedMembers_eq_map (members : List (String × Json)) :
    orderedMembers members = members.map fun member => (member.1, member.2.ordered) := by
  induction members with
  | nil => rfl
  | cons member rest ih => rw [orderedMembers, ih, List.map_cons]

theorem outlinedMembers_eq_map (members : List (String × Json)) :
    outlinedMembers members = members.map fun member => (some member.1, member.2.outlined) := by
  induction members with
  | nil => rfl
  | cons member rest ih => rw [outlinedMembers, ih, List.map_cons]

theorem map_fst_orderedMembers (members : List (String × Json)) :
    (orderedMembers members).map Prod.fst = members.map Prod.fst := by
  rw [orderedMembers_eq_map, List.map_map]
  rfl

theorem distinctMembers_iff {members : List (String × Json)} :
    DistinctMembers members ↔ ∀ member ∈ members, member.2.Distinct := by
  induction members with
  | nil => simp [DistinctMembers]
  | cons member rest ih => simp [DistinctMembers, ih]

mutual

theorem distinct_ordered (value : Json) : value.ordered.Distinct := by
  match value with
  | .null => trivial
  | .bool _ => trivial
  | .int _ => trivial
  | .float _ => trivial
  | .single _ => trivial
  | .str _ => trivial
  | .arr items => exact distinctItems_ordered items
  | .obj members =>
      have each := distinctMembers_iff.mp (distinctMembers_ordered members)
      exact ⟨sortedMembers_nodup _,
        distinctMembers_iff.mpr fun member present => each member (mem_of_mem_sortedMembers present)⟩

theorem distinctItems_ordered (items : List Json) : DistinctItems (orderedItems items) := by
  match items with
  | [] => trivial
  | item :: rest => exact ⟨distinct_ordered item, distinctItems_ordered rest⟩

theorem distinctMembers_ordered (members : List (String × Json)) :
    DistinctMembers (orderedMembers members) := by
  match members with
  | [] => trivial
  | (_, value) :: rest => exact ⟨distinct_ordered value, distinctMembers_ordered rest⟩

end

theorem orderedMembers_of_ordered {members : List (String × Json)}
    (sorted : ∀ member ∈ members, member.2.ordered = member.2) :
    orderedMembers members = members := by
  rw [orderedMembers_eq_map]
  conv_rhs => rw [← List.map_id members]
  exact List.map_congr_left fun member present => Prod.ext rfl (sorted member present)

mutual

theorem ordered_ordered (value : Json) : value.ordered.ordered = value.ordered := by
  match value with
  | .null => rfl
  | .bool _ => rfl
  | .int _ => rfl
  | .float _ => rfl
  | .single _ => rfl
  | .str _ => rfl
  | .arr items => exact congrArg Json.arr (orderedItems_ordered items)
  | .obj members =>
      have each := ordered_of_mem_orderedMembers members
      have inside := orderedMembers_of_ordered fun member present =>
        each member (mem_of_mem_sortedMembers present)
      exact congrArg Json.obj ((congrArg sortedMembers inside).trans (sortedMembers_sortedMembers _))

theorem orderedItems_ordered (items : List Json) :
    orderedItems (orderedItems items) = orderedItems items := by
  match items with
  | [] => rfl
  | item :: rest =>
      rw [orderedItems, orderedItems, ordered_ordered item, orderedItems_ordered rest]

theorem ordered_of_mem_orderedMembers (members : List (String × Json)) :
    ∀ member ∈ orderedMembers members, member.2.ordered = member.2 := by
  match members with
  | [] => exact List.forall_mem_nil _
  | (key, value) :: rest =>
      exact List.forall_mem_cons.mpr ⟨ordered_ordered value, ordered_of_mem_orderedMembers rest⟩

end

/-- A table that is read is a map of sorted maps. -/
theorem table_sorted {depth : Nat} {outline : Outline} {members : List (String × Json)}
    (read : Shape.table depth outline = .ok members) :
    (members.map Prod.fst).Nodup ∧ ∀ member ∈ members, member.2.ordered = member.2 := by
  rw [Shape.table.eq_def] at read
  split at read
  next => cases read
  next held closed room =>
      obtain ⟨values, -, closes⟩ := bind_eq_ok_iff.mp read
      cases closed <;> cases closes
      obtain ⟨keys, subset⟩ := lastMembers_spec (orderedMembers values)
      exact ⟨keys, fun member present =>
        ordered_of_mem_orderedMembers values member (subset present)⟩
  next => cases read

theorem map_ordered_reordered {members others : List (String × Json)}
    (reordered : members.Perm others) :
    (orderedMembers members).Perm (orderedMembers others) := by
  rw [orderedMembers_eq_map, orderedMembers_eq_map]
  exact reordered.map _

mutual

theorem ordered_eq_of_same (value : Json) {other : Json} (same : value.Same other)
    (distinct : value.Distinct) : value.ordered = other.ordered := by
  match value, same with
  | _, .refl _ => rfl
  | .arr items, .arr each => exact congrArg Json.arr (orderedItems_eq_of_same items each distinct)
  | .obj members, @Same.obj _ ordered others keys each reordered =>
      have renamed := orderedMembers_eq_of_same members keys each distinct.2
      have moved := map_ordered_reordered reordered
      have nodup : ((orderedMembers members).map Prod.fst).Nodup :=
        (map_fst_orderedMembers members).symm ▸ distinct.1
      refine congrArg Json.obj (sortedMembers_eq_of_perm nodup ?_)
      rw [renamed]
      exact moved

theorem orderedItems_eq_of_same (items : List Json) {others : List Json}
    (same : List.Forall₂ Same items others) (distinct : DistinctItems items) :
    orderedItems items = orderedItems others := by
  match items, same with
  | [], .nil => rfl
  | item :: rest, .cons here later =>
      rw [orderedItems, orderedItems, ordered_eq_of_same item here distinct.1,
        orderedItems_eq_of_same rest later distinct.2]

theorem orderedMembers_eq_of_same (members : List (String × Json)) {others : List (String × Json)}
    (keys : members.map Prod.fst = others.map Prod.fst)
    (same : List.Forall₂ Same (members.map Prod.snd) (others.map Prod.snd))
    (distinct : DistinctMembers members) : orderedMembers members = orderedMembers others := by
  match members, others with
  | [], [] => rfl
  | [], _ :: _ => cases keys
  | _ :: _, [] => cases keys
  | (key, value) :: rest, (_, value') :: others =>
      obtain ⟨rfl, keysRest⟩ := List.cons.inj keys
      obtain ⟨here, later⟩ := List.forall₂_cons.mp same
      rw [orderedMembers, orderedMembers, ordered_eq_of_same value here distinct.1,
        orderedMembers_eq_of_same rest keysRest later distinct.2]

end

/-- Members whose values are sorted maps are found again, in some order, among those of the same
object. -/
theorem perm_ordered_of_same {members others : List (String × Json)}
    (same : (Json.obj members).Same (.obj others))
    (sorted : ∀ member ∈ members, member.2.ordered = member.2) :
    members.Perm (orderedMembers others) := by
  have own := orderedMembers_of_ordered sorted
  cases same with
  | refl => rw [own]
  | @obj _ ordered _ keys each reordered =>
      have distinct : DistinctMembers members := by
        refine distinctMembers_iff.mpr fun member present => ?_
        rw [← sorted member present]
        exact distinct_ordered member.2
      have renamed := orderedMembers_eq_of_same members keys each distinct
      rw [own] at renamed
      rw [renamed]
      exact map_ordered_reordered reordered

theorem alike_float {numeral : Numeral} {x : Float} (same : numeral.read? = some (.float x))
    (readsBack : (Json.float x).ReadsBack) :
    (Outline.number numeral).Alike (Json.float x).outlined := by
  have read : (Json.float x).outlined.value depthLimit = .ok (.float x) :=
    value_outlined _ readsBack (Nat.zero_le _)
  rw [outlined, floatOutline] at read ⊢
  split at read
  next finite =>
      rw [if_pos finite]
      rw [Outline.value] at read
      split at read
      next => cases read
      next y spelled =>
          obtain rfl : y = x := Json.float.inj (Except.ok.inj read)
          exact .number (same.trans spelled.symm)
      next => cases read
  next => cases read

mutual

/-- What is kept of a text is written as a text that is alike, if its numbers are read back. -/
theorem alike_ordered (outline : Outline) {depth : Nat} {value : Json}
    (read : outline.value depth = .ok value) (readsBack : value.ReadsBack)
    (distinct : value.Distinct) : outline.Alike value.ordered.outlined := by
  match outline with
  | .missing => cases read
  | .null =>
      cases read
      exact .refl _
  | .bool _ =>
      cases read
      exact .refl _
  | .number numeral =>
      rw [Outline.value] at read
      split at read
      next n spelled =>
          cases read
          exact .number (spelled.trans (Numeral.read?_ofInt readsBack.1 readsBack.2).symm)
      next x spelled =>
          cases read
          exact alike_float spelled readsBack
      next => cases read
  | .text none => cases read
  | .text (some _) =>
      cases read
      exact .refl _
  | .items held closed =>
      cases depth with
      | zero => cases read
      | succ depth =>
          obtain ⟨values, found, rfl, rfl⟩ := Outline.value_items_eq_ok_iff.mp read
          exact .items true (alike_orderedItems held found readsBack distinct)
  | .members held closed =>
      cases depth with
      | zero => cases read
      | succ depth =>
          obtain ⟨values, found, rfl, rfl⟩ := Outline.value_members_eq_ok_iff.mp read
          obtain ⟨keys, each⟩ := alike_orderedMembers held found readsBack distinct.2
          have nodup : ((orderedMembers values).map Prod.fst).Nodup :=
            (map_fst_orderedMembers values).symm ▸ distinct.1
          have sorted := sortedMembers_perm (orderedMembers values)
          rw [lastMembers_of_nodup nodup] at sorted
          refine .members true keys each ?_
          rw [outlinedMembers_eq_map, outlinedMembers_eq_map]
          exact sorted.symm.map _

theorem alike_orderedItems (held : List Outline) {depth : Nat} {values : List Json}
    (read : Outline.itemValues depth held = .ok values) (readsBack : ReadsBackItems values)
    (distinct : DistinctItems values) :
    List.Forall₂ Outline.Alike held (outlinedItems (orderedItems values)) := by
  match held with
  | [] =>
      cases read
      exact .nil
  | item :: rest =>
      obtain ⟨first, others, here, later, rfl⟩ := Outline.itemValues_cons_eq_ok_iff.mp read
      exact .cons (alike_ordered item here readsBack.1 distinct.1)
        (alike_orderedItems rest later readsBack.2 distinct.2)

theorem alike_orderedMembers (held : List (Option String × Outline)) {depth : Nat}
    {values : List (String × Json)} (read : Outline.memberValues depth held = .ok values)
    (readsBack : ReadsBackMembers values) (distinct : DistinctMembers values) :
    held.map Prod.fst = (outlinedMembers (orderedMembers values)).map Prod.fst ∧
      List.Forall₂ Outline.Alike (held.map Prod.snd)
        ((outlinedMembers (orderedMembers values)).map Prod.snd) := by
  match held with
  | [] =>
      cases read
      exact ⟨rfl, .nil⟩
  | (key, outline) :: rest =>
      obtain ⟨name, first, others, rfl, here, later, rfl⟩ :=
        Outline.memberValues_cons_eq_ok_iff.mp read
      obtain ⟨keys, each⟩ := alike_orderedMembers rest later readsBack.2 distinct.2
      exact ⟨congrArg (some name :: ·) keys,
        .cons (alike_ordered outline here readsBack.1 distinct.1) each⟩

end

mutual

theorem value_deeper (outline : Outline) {depth deeper : Nat} (room : depth ≤ deeper)
    {value : Json} (read : outline.value depth = .ok value) : outline.value deeper = .ok value := by
  match outline with
  | .missing => cases read
  | .null => exact read
  | .bool _ => exact read
  | .number _ => exact read
  | .text none => cases read
  | .text (some _) => exact read
  | .items held closed =>
      cases depth with
      | zero => cases read
      | succ depth =>
          obtain ⟨values, found, rfl, rfl⟩ := Outline.value_items_eq_ok_iff.mp read
          obtain ⟨inside, rfl⟩ : ∃ inside, deeper = inside + 1 :=
            Nat.exists_eq_add_one.mpr (Nat.lt_of_lt_of_le (Nat.succ_pos _) room)
          exact Outline.value_items_eq_ok_iff.mpr
            ⟨values, itemValues_deeper held (Nat.le_of_succ_le_succ room) found, rfl, rfl⟩
  | .members held closed =>
      cases depth with
      | zero => cases read
      | succ depth =>
          obtain ⟨values, found, rfl, rfl⟩ := Outline.value_members_eq_ok_iff.mp read
          obtain ⟨inside, rfl⟩ : ∃ inside, deeper = inside + 1 :=
            Nat.exists_eq_add_one.mpr (Nat.lt_of_lt_of_le (Nat.succ_pos _) room)
          exact Outline.value_members_eq_ok_iff.mpr
            ⟨values, memberValues_deeper held (Nat.le_of_succ_le_succ room) found, rfl, rfl⟩

theorem itemValues_deeper (held : List Outline) {depth deeper : Nat} (room : depth ≤ deeper)
    {values : List Json} (read : Outline.itemValues depth held = .ok values) :
    Outline.itemValues deeper held = .ok values := by
  match held with
  | [] => exact read
  | item :: rest =>
      obtain ⟨first, others, here, later, rfl⟩ := Outline.itemValues_cons_eq_ok_iff.mp read
      exact Outline.itemValues_cons_eq_ok_iff.mpr
        ⟨first, others, value_deeper item room here, itemValues_deeper rest room later, rfl⟩

theorem memberValues_deeper (held : List (Option String × Outline)) {depth deeper : Nat}
    (room : depth ≤ deeper) {values : List (String × Json)}
    (read : Outline.memberValues depth held = .ok values) :
    Outline.memberValues deeper held = .ok values := by
  match held with
  | [] => exact read
  | (key, outline) :: rest =>
      obtain ⟨name, first, others, named, here, later, rfl⟩ :=
        Outline.memberValues_cons_eq_ok_iff.mp read
      exact Outline.memberValues_cons_eq_ok_iff.mpr ⟨name, first, others, named,
        value_deeper outline room here, memberValues_deeper rest room later, rfl⟩

end

end VectorSearch.Json
