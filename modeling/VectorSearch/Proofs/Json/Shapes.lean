import VectorSearch.Proofs.Json.Members
import VectorSearch.Proofs.Json.Reading

namespace VectorSearch.Json

variable {depth : Nat}

theorem mapM_eq_ok_iff {read : α → Except ε β} {items : List α} {results : List β} :
    items.mapM read = .ok results ↔
      List.Forall₂ (fun item result => read item = .ok result) items results := by
  induction items generalizing results with
  | nil =>
      rw [List.forall₂_nil_left_iff, List.mapM_nil]
      exact ⟨fun same => (Except.ok.inj same).symm, fun same => congrArg Except.ok same.symm⟩
  | cons item rest ih =>
      simp only [List.mapM_cons, bind_eq_ok_iff]
      constructor
      · rintro ⟨first, here, others, later, ⟨⟩⟩
        exact .cons here (ih.mp later)
      · rintro (_ | ⟨here, later⟩)
        exact ⟨_, here, _, ih.mpr later, rfl⟩

theorem mapM_eq_some_iff {read : α → Option β} {items : List α} {results : List β} :
    items.mapM read = some results ↔
      List.Forall₂ (fun item result => read item = some result) items results := by
  induction items generalizing results with
  | nil =>
      rw [List.forall₂_nil_left_iff, List.mapM_nil]
      exact ⟨fun same => (Option.some.inj same).symm, fun same => congrArg some same.symm⟩
  | cons item rest ih =>
      simp only [List.mapM_cons, bind, Option.bind_eq_some_iff]
      constructor
      · rintro ⟨first, here, others, later, ⟨⟩⟩
        exact .cons here (ih.mp later)
      · rintro (_ | ⟨here, later⟩)
        exact ⟨_, here, _, ih.mpr later, rfl⟩

theorem list_items_eq_ok_iff {shape : Shape α} {held : List Outline} {closed : Bool}
    {values : List α} :
    Shape.list shape (depth + 1) (.items held closed) = .ok values ↔
      List.Forall₂ (fun item value => shape depth item = .ok value) held values ∧ closed = true := by
  simp only [Shape.list, bind_eq_ok_iff, mapM_eq_ok_iff]
  cases closed <;> simp

theorem list_items_isOk_iff {shape : Shape α} {held : List Outline} {closed : Bool} :
    (Shape.list shape (depth + 1) (.items held closed)).isOk = true ↔
      (∀ item ∈ held, (shape depth item).isOk = true) ∧ closed = true := by
  simp only [isOk_iff_exists, list_items_eq_ok_iff, exists_and_right]
  refine and_congr_left' ?_
  induction held with
  | nil => simp
  | cons item rest ih => simp [List.forall₂_cons_left_iff, ← ih]

theorem record_of_members {slots : List (Shape.Slot ρ)} {empty filled : ρ} {finish : ρ → Option γ}
    {members : List (Option String × Outline)} {result : γ}
    (read : members.foldlM (Shape.readMember slots depth) empty = .ok filled)
    (finished : finish filled = some result) :
    Shape.record slots empty finish (depth + 1) (.members members true) = .ok result := by
  simp only [Shape.record, read, bind, Except.bind, finished, Bool.not_true, Bool.false_eq_true,
    if_false]

/-- How a record is finished matters last. -/
theorem record_of_filled {slots : List (Shape.Slot ρ)} {empty filled : ρ} {finish : ρ → Option γ}
    {outline : Outline} {result : γ}
    (read : Shape.record slots empty some depth outline = .ok filled)
    (finished : finish filled = some result) :
    Shape.record slots empty finish depth outline = .ok result := by
  cases outline with
  | members held closed =>
      cases depth with
      | zero => cases read
      | succ depth =>
          simp only [Shape.record, bind_eq_ok_iff] at read ⊢
          obtain ⟨record, members, closes⟩ := read
          refine ⟨record, members, ?_⟩
          cases closed <;> cases closes
          simp only [finished, Bool.not_true, Bool.false_eq_true, if_false]
  | items held closed =>
      cases depth with
      | zero => cases read
      | succ depth =>
          simp only [Shape.record, bind_eq_ok_iff] at read ⊢
          obtain ⟨⟨record, more⟩, items, closes⟩ := read
          refine ⟨(record, more), items, ?_⟩
          dsimp only at closes ⊢
          split at closes
          next => cases closes
          next whole =>
            split at closes
            next => cases closes
            next enough =>
              rw [if_neg whole, if_neg enough]
              split at closes
              next all =>
                cases closes
                rw [finished]
                exact if_pos all
              next => cases closes
  | _ => cases read

/-- A record is read only if every member that has a slot is. -/
theorem record_member_isOk {slots : List (Shape.Slot ρ)} {empty : ρ} {finish : ρ → Option γ}
    {members : List (Option String × Outline)}
    (read : (Shape.record slots empty finish (depth + 1) (.members members true)).isOk = true)
    {key : String} {outline : Outline} (present : (some key, outline) ∈ members)
    {names : List String} {get : ρ → Option α} {set : ρ → α → ρ} {shape : Shape α}
    (slot : slots.find? (·.names.contains key) = some (.of names get set shape)) :
    (shape depth outline).isOk = true := by
  simp only [Shape.record, isOk_iff_exists, bind_eq_ok_iff] at read
  obtain ⟨_, _, folded, -⟩ := read
  generalize empty = before at folded
  induction members generalizing before with
  | nil => cases present
  | cons member rest ih =>
      rw [List.foldlM_cons, bind_eq_ok_iff] at folded
      obtain ⟨next, here, later⟩ := folded
      rcases List.mem_cons.mp present with rfl | behind
      · simp only [Shape.readMember, slot, Shape.Slot.of] at here
        split at here
        next => cases here
        next =>
          cases taken : shape depth outline with
          | error reason => simp [taken] at here
          | ok value => rfl
      · exact ih behind next later

theorem optional_of_ok {shape : Shape α} {outline : Outline} {value : α}
    (read : shape depth outline = .ok value) (present : outline ≠ .null) :
    Shape.optional shape depth outline = .ok (some value) := by
  have inner : Shape.optional shape depth outline = some <$> shape depth outline := by
    cases outline <;> first | rfl | exact absurd rfl present
  rw [inner, read]
  rfl

theorem table_isOk_iff {outline : Outline} :
    (Shape.table depth outline).isOk = true ↔
      ∃ members, outline.value depth = .ok (.obj members) := by
  cases outline with
  | members held closed =>
      cases depth with
      | zero => simp [Shape.table, Outline.value, isOk_iff_exists]
      | succ depth =>
          simp only [Shape.table, isOk_iff_exists, bind_eq_ok_iff,
            Outline.value_members_eq_ok_iff]
          cases closed <;> simp
  | items held closed =>
      cases depth with
      | zero => simp [Shape.table, Outline.value, isOk_iff_exists]
      | succ depth => simp [Shape.table, isOk_iff_exists, Outline.value_items_eq_ok_iff]
  | number numeral =>
      simp only [Shape.table, Outline.value, isOk_iff_exists]
      split <;> simp
  | text content => cases content <;> simp [Shape.table, Outline.value, isOk_iff_exists]
  | _ => simp [Shape.table, Outline.value, isOk_iff_exists]

theorem table_isOk_alike {outline other : Outline} (alike : outline.Alike other)
    (read : (Shape.table depth outline).isOk = true) : (Shape.table depth other).isOk = true := by
  obtain ⟨members, found⟩ := table_isOk_iff.mp read
  obtain ⟨reread, found', same⟩ := Outline.value_alike outline alike found
  obtain ⟨others, rfl, -⟩ := same.exists_members
  exact table_isOk_iff.mpr ⟨others, found'⟩

theorem number_alike {outline other : Outline} (alike : outline.Alike other)
    (convert : Number.Quantity → Option α) (depth depth' : Nat) :
    Shape.number convert depth outline = Shape.number convert depth' other := by
  cases alike with
  | refl => rfl
  | number same => simp only [Shape.number, same]
  | items closed each => rfl
  | members closed keys each reordered => rfl

theorem natural_outlined {n : Nat} (fits : n < UInt64.size) :
    Shape.natural depth (Json.int n).outlined = .ok n := by
  have least : Int64.minValue.toInt ≤ 0 := by decide
  have read := Number.Numeral.read?_ofInt (Int.le_trans least (Int.natCast_nonneg n))
    (Int.ofNat_lt.mpr fits)
  simp [Shape.natural, Shape.number, outlined, read]

/-- A double that is read back from its text as a value is read back from it as a number. -/
theorem double_outlined {x : Float} (readsBack : (Json.float x).ReadsBack) :
    Shape.double depth (Json.float x).outlined = .ok x := by
  have read : (Json.float x).outlined.value depth = .ok (.float x) :=
    value_outlined _ readsBack (Nat.zero_le depth)
  rw [outlined, floatOutline] at read ⊢
  split at read
  next finite =>
    rw [if_pos finite, Shape.double, Shape.number]
    rw [Outline.value] at read
    split at read
    next => cases read
    next y numeral =>
      obtain rfl : y = x := by
        injection read with same
        injection same
      simp only [numeral]
    next => cases read
  next => cases read

theorem single_alike {outline other : Outline} (alike : outline.Alike other) (depth depth' : Nat) :
    Shape.single depth outline = Shape.single depth' other :=
  number_alike alike _ depth depth'

end VectorSearch.Json
