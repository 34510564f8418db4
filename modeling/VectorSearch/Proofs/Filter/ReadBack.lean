import VectorSearch.Proofs.Json.Floats
import VectorSearch.Proofs.Json.Shapes
import VectorSearch.SearchRequest

namespace VectorSearch

/-! Filters and search requests read back from their texts.

The text of a filter is an object that names its kind first. The other members are taken in as they
are, and only then read as the parts of a filter of that kind, the filters among them in the same
way. A value keeps its kind on the way: what is written as a whole number, a floating-point number,
a boolean, a string or a list is read as such.
-/

namespace Scalar

/-- A scalar that a text can hold: whole numbers have 64 bits, and a floating-point number is read
back from its own text, as no number is that is not finite. -/
def ReadsBack : Scalar → Prop
  | .integer n => Int64.minValue.toInt ≤ n ∧ n ≤ Int64.maxValue.toInt
  | .float x => Json.parse (Json.float x).print = .ok (.float x)
  | _ => True

variable {scalar : Scalar}

theorem ReadsBack.toJson (readsBack : scalar.ReadsBack) : scalar.toJson.ReadsBack := by
  cases scalar with
  | integer n =>
      have whole : n ≤ Int64.maxValue.toInt := readsBack.2
      have below : Int64.maxValue.toInt < UInt64.size := by decide
      exact ⟨readsBack.1, Int.lt_of_le_of_lt whole below⟩
  | float x => exact readsBack
  | boolean value => trivial
  | string value => trivial

theorem ofJson?_toJson (readsBack : scalar.ReadsBack) : ofJson? scalar.toJson = some scalar := by
  cases scalar with
  | integer n => exact congrArg some (if_pos readsBack)
  | float x => rfl
  | boolean value => rfl
  | string value => rfl

end Scalar

namespace Operand

def ReadsBack : Operand → Prop
  | .one scalar => scalar.ReadsBack
  | .many scalars => ∀ scalar ∈ scalars, scalar.ReadsBack

variable {operand : Operand}

theorem ReadsBack.toJson (readsBack : operand.ReadsBack) : operand.toJson.ReadsBack := by
  cases operand with
  | one scalar => exact Scalar.ReadsBack.toJson readsBack
  | many scalars =>
      change Json.ReadsBackItems (scalars.map Scalar.toJson)
      induction scalars with
      | nil => trivial
      | cons scalar rest ih =>
          obtain ⟨first, others⟩ := List.forall_mem_cons.mp readsBack
          exact ⟨first.toJson, ih others⟩

/-- A list is read as a list, however short, and nothing else is. -/
theorem ofJson?_toJson (readsBack : operand.ReadsBack) : ofJson? operand.toJson = some operand := by
  cases operand with
  | one scalar =>
      have read : Scalar.ofJson? scalar.toJson = some scalar := Scalar.ofJson?_toJson readsBack
      have alone : ofJson? scalar.toJson = .one <$> Scalar.ofJson? scalar.toJson := by
        cases scalar <;> rfl
      rw [Operand.toJson, alone, read]
      rfl
  | many scalars =>
      have read : (scalars.map Scalar.toJson).mapM Scalar.ofJson? = some scalars := by
        induction scalars with
        | nil => rfl
        | cons scalar rest ih =>
            obtain ⟨first, others⟩ := List.forall_mem_cons.mp readsBack
            rw [List.map_cons, List.mapM_cons, Scalar.ofJson?_toJson first, ih others]
            rfl
      rw [Operand.toJson, ofJson?, read]
      rfl

end Operand

namespace Filter

/-- All values in a filter are read back. -/
def ReadsBack : Filter → Prop
  | .compare _ _ operand => operand.ReadsBack
  | .member _ _ operand => operand.ReadsBack
  | .not inner => inner.ReadsBack
  | .and left right => left.ReadsBack ∧ right.ReadsBack
  | .or left right => left.ReadsBack ∧ right.ReadsBack
  | .group inner => inner.ReadsBack

def kind : Filter → Kind
  | .compare _ _ _ => .comparison
  | .member _ _ _ => .setMembership
  | .not _ => .negation
  | .and _ _ => .conjunction
  | .or _ _ => .disjunction
  | .group _ => .group

/-- What is written of a filter beside its kind. -/
def parts : Filter → List (String × Json)
  | .compare key operator operand =>
      [("key", .str key), ("op", .str operator.name), ("value", operand.toJson)]
  | .member key negated operand =>
      [("key", .str key), ("negated", .bool negated), ("values", operand.toJson)]
  | .not inner => [("inner", inner.toJson)]
  | .and left right => [("left", left.toJson), ("right", right.toJson)]
  | .or left right => [("left", left.toJson), ("right", right.toJson)]
  | .group inner => [("inner", inner.toJson)]

theorem toJson_eq (filter : Filter) :
    filter.toJson = .obj (("type", .str filter.kind.name) :: filter.parts) := by
  cases filter <;> rfl

theorem Kind.ofName?_name (kind : Kind) : ofName? kind.name = some kind := by
  cases kind <;> rfl

theorem parts_named (filter : Filter) : ∀ part ∈ filter.parts, part.1 ≠ "type" := by
  cases filter <;> simp [parts]

theorem ReadsBack.toJson {filter : Filter} (readsBack : filter.ReadsBack) :
    filter.toJson.ReadsBack := by
  induction filter with
  | compare key operator operand =>
      exact ⟨trivial, trivial, trivial, Operand.ReadsBack.toJson readsBack, trivial⟩
  | member key negated operand =>
      exact ⟨trivial, trivial, trivial, Operand.ReadsBack.toJson readsBack, trivial⟩
  | not inner ih => exact ⟨trivial, ih readsBack, trivial⟩
  | and left right ihLeft ihRight =>
      exact ⟨trivial, ihLeft readsBack.1, ihRight readsBack.2, trivial⟩
  | or left right ihLeft ihRight =>
      exact ⟨trivial, ihLeft readsBack.1, ihRight readsBack.2, trivial⟩
  | group inner ih => exact ⟨trivial, ih readsBack, trivial⟩

/-- A filter is read from its parts by what reads the filters among them. -/
theorem ofBody?_parts {filter : Filter} {inner : Json → Option Filter}
    (readsBack : filter.ReadsBack)
    (reads : ∀ other : Filter, other.ReadsBack → (∃ name, (name, other.toJson) ∈ filter.parts) →
      inner other.toJson = some other) :
    ofBody? inner filter.kind (.obj filter.parts) = some filter := by
  cases filter with
  | compare key operator operand =>
      change (Operator.ofName? operator.name).bind (fun operator =>
        (Operand.ofJson? operand.toJson).bind fun operand =>
          some (Filter.compare key operator operand)) = _
      rw [Operator.ofName?_name, Operand.ofJson?_toJson readsBack]
      rfl
  | member key negated operand =>
      change (Operand.ofJson? operand.toJson).bind
        (fun operand => some (Filter.member key negated operand)) = _
      rw [Operand.ofJson?_toJson readsBack]
      rfl
  | not other =>
      change (inner other.toJson).bind (fun other => some (Filter.not other)) = _
      rw [reads other readsBack ⟨_, .head _⟩]
      rfl
  | and left right =>
      change (inner left.toJson).bind (fun left => (inner right.toJson).bind fun right =>
        some (Filter.and left right)) = _
      rw [reads left readsBack.1 ⟨_, .head _⟩, reads right readsBack.2 ⟨_, .tail _ (.head _)⟩]
      rfl
  | or left right =>
      change (inner left.toJson).bind (fun left => (inner right.toJson).bind fun right =>
        some (Filter.or left right)) = _
      rw [reads left readsBack.1 ⟨_, .head _⟩, reads right readsBack.2 ⟨_, .tail _ (.head _)⟩]
      rfl
  | group other =>
      change (inner other.toJson).bind (fun other => some (Filter.group other)) = _
      rw [reads other readsBack ⟨_, .head _⟩]
      rfl

theorem ofJson?_succ (filter : Filter) (depth : Nat) :
    ofJson? (depth + 1) filter.toJson =
      ofBody? (ofJson? depth) filter.kind (.obj filter.parts) := by
  cases filter <;> rfl

theorem nesting_part {filter other : Filter} {name : String}
    (part : (name, other.toJson) ∈ filter.parts) :
    other.toJson.nesting < filter.toJson.nesting := by
  rw [toJson_eq filter]
  exact Nat.lt_succ_of_le (Json.nesting_le_nestingMembers (.tail _ part))

/-- A filter is read back wherever it stands, as long as there is room for the filters in it. -/
theorem ofJson?_toJson {filter : Filter} {depth : Nat} (readsBack : filter.ReadsBack)
    (fits : filter.toJson.nesting ≤ depth) : ofJson? depth filter.toJson = some filter := by
  induction depth generalizing filter with
  | zero =>
      rw [toJson_eq] at fits
      exact absurd fits (Nat.not_succ_le_zero _)
  | succ depth ih =>
      rw [ofJson?_succ]
      refine ofBody?_parts readsBack fun other otherReadsBack ⟨_, part⟩ => ?_
      exact ih otherReadsBack (Nat.le_of_lt_succ (Nat.lt_of_lt_of_le (nesting_part part) fits))

variable {depth : Nat}

open Json

/-- Members other than the kind are kept in their order. -/
theorem foldlM_readMember_outlined {members : List (String × Json)}
    (named : ∀ member ∈ members, member.1 ≠ "type") (readsBack : ReadsBackMembers members)
    (fits : nestingMembers members ≤ depth) (kind : Option Kind) (taken : List (String × Json)) :
    (outlinedMembers members).foldlM (readMember depth) (kind, taken) =
      .ok (kind, taken ++ members) := by
  induction members generalizing taken with
  | nil => exact congrArg (fun all => Except.ok (kind, all)) (List.append_nil taken).symm
  | cons member rest ih =>
      obtain ⟨different, others⟩ := List.forall_mem_cons.mp named
      have here : readMember depth (kind, taken) (some member.1, member.2.outlined) =
          .ok (kind, taken ++ [member]) := by
        have value := value_outlined member.2 readsBack.1 (Nat.max_le.mp fits).1
        rw [readMember, if_neg different, value]
        rfl
      have later := ih others readsBack.2 (Nat.max_le.mp fits).2 (taken ++ [member])
      rw [List.append_assoc, List.singleton_append] at later
      exact bind_eq_ok_iff.mpr ⟨_, here, later⟩

theorem shape_outlined {filter : Filter} (readsBack : filter.ReadsBack)
    (fits : filter.toJson.nesting ≤ depth) : shape depth filter.toJson.outlined = .ok filter := by
  have found : ofBody? (ofJson? depth) filter.kind (.obj filter.parts) = some filter :=
    ofBody?_parts readsBack fun _ otherReadsBack ⟨_, part⟩ =>
      ofJson?_toJson otherReadsBack (Nat.le_of_lt (Nat.lt_of_lt_of_le (nesting_part part) fits))
  have partsReadBack := readsBack.toJson
  rw [toJson_eq] at fits partsReadBack ⊢
  obtain ⟨room, rfl⟩ : ∃ room, depth = room + 1 :=
    Nat.exists_eq_add_one.mpr (Nat.lt_of_lt_of_le (Nat.succ_pos _) fits)
  have kindRead : readMember room (none, []) (some "type", .text (some filter.kind.name)) =
      .ok (some filter.kind, []) := by
    rw [readMember, if_pos rfl, kindShape, Shape.text]
    simp only [bind, Except.bind, Kind.ofName?_name]
    rfl
  have partsRead := foldlM_readMember_outlined (parts_named filter) partsReadBack.2
    (Nat.max_le.mp (Nat.le_of_succ_le_succ fits)).2 (some filter.kind) []
  have allRead : (outlinedMembers (("type", .str filter.kind.name) :: filter.parts)).foldlM
      (readMember room) (none, []) = .ok (some filter.kind, filter.parts) :=
    bind_eq_ok_iff.mpr ⟨_, kindRead, partsRead⟩
  simp only [shape, outlined, allRead, bind, Except.bind, Bool.not_true, Bool.false_eq_true,
    if_false, found]

/-- A filter is read back from its text. -/
theorem parse_print {filter : Filter} (readsBack : filter.ReadsBack)
    (fits : filter.toJson.nesting ≤ depthLimit) : parse filter.toJson.print = .ok filter := by
  rw [parse, readWith_print, shape_outlined readsBack fits]

end Filter

namespace SearchRequest

open Json

structure ReadsBack (request : SearchRequest) : Prop where
  filter : ∀ filter ∈ request.limits.filter, filter.ReadsBack
  topK : request.limits.topK < UInt64.size
  threshold : (Json.float request.limits.threshold).ReadsBack

theorem readMember_filter {depth : Nat} {draft : Draft} {filter : Filter}
    (isOpen : draft.filter = none) (readsBack : filter.ReadsBack)
    (fits : filter.toJson.nesting ≤ depth) :
    Shape.readMember Draft.slots depth draft (some "filter", filter.toJson.outlined) =
      .ok { draft with filter := some (some filter) } := by
  obtain ⟨query, _, topK, threshold⟩ := draft
  cases isOpen
  have present : Shape.optional Filter.shape depth filter.toJson.outlined = .ok (some filter) := by
    have plain : Shape.optional Filter.shape depth filter.toJson.outlined =
        some <$> Filter.shape depth filter.toJson.outlined := by
      rw [Filter.toJson_eq]
      rfl
    rw [plain, Filter.shape_outlined readsBack fits]
    rfl
  change _ <$> Shape.optional Filter.shape depth filter.toJson.outlined = _
  rw [present]
  rfl

theorem readMember_topK {depth : Nat} {draft : Draft} {topK : Nat} (isOpen : draft.topK = none)
    (fits : topK < UInt64.size) :
    Shape.readMember Draft.slots depth draft (some "top_k", (Json.int topK).outlined) =
      .ok { draft with topK := some topK } := by
  obtain ⟨query, filter, _, threshold⟩ := draft
  cases isOpen
  change _ <$> Shape.natural depth (Json.int topK).outlined = _
  rw [natural_outlined fits]
  rfl

theorem readMember_threshold {depth : Nat} {draft : Draft} {threshold : Float}
    (isOpen : draft.threshold = none) (readsBack : (Json.float threshold).ReadsBack) :
    Shape.readMember Draft.slots depth draft
        (some "similarity_threshold", (Json.float threshold).outlined) =
      .ok { draft with threshold := some threshold } := by
  obtain ⟨query, filter, topK, _⟩ := draft
  cases isOpen
  change _ <$> Shape.double depth (Json.float threshold).outlined = _
  rw [double_outlined readsBack]
  rfl

/-- The count and the threshold, which are always written, end a request. -/
theorem foldlM_readMember_numbers {depth : Nat} {limits : Limits} {draft : Draft}
    (counted : draft.topK = none) (bounded : draft.threshold = none)
    (fits : limits.topK < UInt64.size) (readsBack : (Json.float limits.threshold).ReadsBack) :
    [(some "top_k", (Json.int limits.topK).outlined),
        (some "similarity_threshold", (Json.float limits.threshold).outlined)].foldlM
      (Shape.readMember Draft.slots depth) draft =
      .ok { draft with topK := some limits.topK, threshold := some limits.threshold } :=
  bind_eq_ok_iff.mpr ⟨_, readMember_topK counted fits,
    bind_eq_ok_iff.mpr ⟨_, readMember_threshold bounded readsBack, rfl⟩⟩

theorem shape_outlined {request : SearchRequest} {depth : Nat} (readsBack : request.ReadsBack)
    (fits : request.toJson.nesting ≤ depth) :
    shape depth request.toJson.outlined = .ok request := by
  obtain ⟨room, rfl⟩ : ∃ room, depth = room + 1 :=
    Nat.exists_eq_add_one.mpr (Nat.lt_of_lt_of_le (Nat.succ_pos _) fits)
  have numbers := fun (draft : Draft) (counted : draft.topK = none)
    (bounded : draft.threshold = none) =>
      @foldlM_readMember_numbers room request.limits draft counted bounded readsBack.topK
        readsBack.threshold
  obtain ⟨query, filter, topK, threshold⟩ := request
  cases filter with
  | none => exact record_of_members (bind_eq_ok_iff.mpr ⟨_, rfl, numbers _ rfl rfl⟩) rfl
  | some filter =>
      have inside : filter.toJson.nesting ≤ room :=
        (nesting_le_nestingMembers (.tail _ (.head _))).trans (Nat.le_of_succ_le_succ fits)
      have taken := @readMember_filter room ⟨some query, none, none, none⟩ filter rfl
        (readsBack.filter filter rfl) inside
      exact record_of_members
        (bind_eq_ok_iff.mpr ⟨_, rfl, bind_eq_ok_iff.mpr ⟨_, taken, numbers _ rfl rfl⟩⟩) rfl

theorem parse_print {request : SearchRequest} (readsBack : request.ReadsBack)
    (fits : request.toJson.nesting ≤ depthLimit) :
    readWith shape request.toJson.print = .ok request := by
  rw [readWith_print, shape_outlined readsBack fits]

end SearchRequest

/-- Filters and requests that a text can hold are read back from their own texts. -/
theorem filters_and_requests_read_back :
    (∀ filter : Filter, filter.ReadsBack → filter.toJson.nesting ≤ Json.depthLimit →
      Filter.parse filter.toJson.print = .ok filter) ∧
    (∀ request : SearchRequest, request.ReadsBack → request.toJson.nesting ≤ Json.depthLimit →
      Json.readWith SearchRequest.shape request.toJson.print = .ok request) :=
  ⟨fun _ readsBack fits => Filter.parse_print readsBack fits,
    fun _ readsBack fits => SearchRequest.parse_print readsBack fits⟩

theorem filters_and_requests_read_back_each_kind :
    let filter : Filter :=
      .and (.not (.group (.or (.compare "year" .gte (.one (.integer 3)))
          (.compare "score" .lt (.one (.float 3))))))
        (.and (.compare "draft" .eq (.one (.boolean false)))
          (.and (.compare "edition" .ne (.one (.string "3")))
            (.and (.member "tags" true (.many [.string "a"])) (.member "tags" false (.many [])))))
    let request : SearchRequest := ⟨"notes", ⟨some filter, 5, 0.25⟩⟩
    Filter.parse filter.toJson.print = .ok filter ∧
      Json.readWith SearchRequest.shape request.toJson.print = .ok request := by
  intro filter request
  have whole : (Json.float 3).ReadsBack := Json.parse_float_eq_ok_iff.mpr (by decide +kernel)
  have quarter : (Json.float 0.25).ReadsBack := Json.parse_float_eq_ok_iff.mpr (by decide +kernel)
  have readsBack : filter.ReadsBack :=
    ⟨⟨⟨by decide, by decide⟩, whole⟩, trivial, trivial, List.forall_mem_singleton.mpr trivial,
      List.forall_mem_nil _⟩
  have requestReadsBack : request.ReadsBack :=
    ⟨by rintro _ ⟨⟩; exact readsBack, by decide, quarter⟩
  exact ⟨filters_and_requests_read_back.1 filter readsBack (by decide),
    filters_and_requests_read_back.2 request requestReadsBack (by decide)⟩

end VectorSearch
