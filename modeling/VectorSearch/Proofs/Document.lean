import Mathlib.Data.List.Perm.Basic
import VectorSearch.Document
import VectorSearch.Proofs.Json.Floats
import VectorSearch.Proofs.Json.Ordering

namespace VectorSearch

namespace Document.Draft

open Json

inductive Part where
  | id (value : String)
  | content (value : String)
  | metadata (members : List (String × Json))
  | embedding (value : Option Embedding)

namespace Part

def name : Part → String
  | .id _ => "id"
  | .content _ => "content"
  | .metadata _ => "metadata"
  | .embedding _ => "embedding"

def put (draft : Draft) : Part → Draft
  | .id value => { draft with id := some value }
  | .content value => { draft with content := some value }
  | .metadata members => { draft with metadata := some members }
  | .embedding value => { draft with embedding := some value }

def IsOpen (draft : Draft) : Part → Prop
  | .id _ => draft.id = none
  | .content _ => draft.content = none
  | .metadata _ => draft.metadata = none
  | .embedding _ => draft.embedding = none

theorem put_comm (draft : Draft) {part other : Part} (different : part.name ≠ other.name) :
    put (put draft part) other = put (put draft other) part := by
  cases part <;> cases other <;> first | rfl | exact absurd rfl different

theorem isOpen_put {draft : Draft} {part other : Part} (different : part.name ≠ other.name)
    (isOpen : IsOpen draft other) : IsOpen (put draft part) other := by
  cases part <;> cases other <;> first | exact isOpen | exact absurd rfl different

/-- Reading a member puts a part into any draft that lacks it. -/
def Read (depth : Nat) (member : Option String × Outline) (part : Part) : Prop :=
  ∀ draft, IsOpen draft part → Shape.readMember slots depth draft member = .ok (put draft part)

theorem read_id (depth : Nat) (value : String) :
    Read depth (some "id", .text (some value)) (.id value) := by
  rintro ⟨_, content, metadata, embedding⟩ ⟨⟩
  rfl

theorem read_content (depth : Nat) (value : String) :
    Read depth (some "content", .text (some value)) (.content value) := by
  rintro ⟨id, _, metadata, embedding⟩ ⟨⟩
  rfl

theorem read_metadata {depth : Nat} {outline : Outline} {members : List (String × Json)}
    (read : Shape.table depth outline = .ok members) :
    Read depth (some "metadata", outline) (.metadata members) := by
  rintro ⟨id, content, _, embedding⟩ ⟨⟩
  change _ <$> Shape.table depth outline = _
  rw [read]
  rfl

theorem read_embedding {depth : Nat} {outline : Outline} {value : Option Embedding}
    (read : Shape.optional (Shape.list Shape.single) depth outline = .ok value) :
    Read depth (some "embedding", outline) (.embedding value) := by
  rintro ⟨id, content, metadata, _⟩ ⟨⟩
  change _ <$> Shape.optional (Shape.list Shape.single) depth outline = _
  rw [read]
  rfl

theorem foldlM_read {depth : Nat} {members : List (Option String × Outline)} {parts : List Part}
    (read : List.Forall₂ (Read depth) members parts) (distinct : (parts.map name).Nodup)
    {draft : Draft} (isOpen : ∀ part ∈ parts, IsOpen draft part) :
    members.foldlM (Shape.readMember slots depth) draft = .ok (parts.foldl put draft) := by
  induction read generalizing draft with
  | nil => rfl
  | @cons member part members parts here _ ih =>
      obtain ⟨fresh, restDistinct⟩ := List.nodup_cons.mp distinct
      obtain ⟨partOpen, restOpen⟩ := List.forall_mem_cons.mp isOpen
      rw [List.foldlM_cons, here draft partOpen]
      refine ih restDistinct fun other later => isOpen_put ?_ (restOpen other later)
      exact fun same => fresh (same ▸ List.mem_map_of_mem later)

/-- Parts that are read in one order are read in any other. -/
theorem foldlM_read_reordered {depth : Nat} {members others : List (Option String × Outline)}
    {parts : List Part} (read : List.Forall₂ (Read depth) members parts)
    (distinct : (parts.map name).Nodup) (reordered : members.Perm others) :
    others.foldlM (Shape.readMember slots depth) .empty = .ok (parts.foldl put .empty) := by
  obtain ⟨partsReordered, read', permuted⟩ := List.perm_comp_forall₂ reordered.symm read
  have distinct' : (partsReordered.map name).Nodup := (permuted.map name).nodup_iff.mpr distinct
  have untouched : ∀ part, IsOpen .empty part := by
    intro part
    cases part <;> rfl
  rw [foldlM_read read' distinct' fun part _ => untouched part]
  refine congrArg Except.ok (permuted.foldl_eq' ?_ Draft.empty)
  -- Parts of one name could overwrite each other, but no two parts share a name.
  intro part here other there draft
  by_cases same : part = other
  · rw [same]
  · exact put_comm draft fun sameName =>
      same (List.inj_on_of_nodup_map distinct' here there sameName)

end Part

end Document.Draft

namespace Document

open Json

/-- The same document, whatever the order of its metadata is. -/
structure Same (document other : Document) : Prop where
  id : document.id = other.id
  content : document.content = other.content
  metadata : document.metadata.Perm other.metadata
  embedding : document.embedding = other.embedding

/-- What a document needs to be read back from its text: metadata is a map and what objects it
holds are sorted maps, every number in it and in the embedding is read back, and what surrounds its
innermost value can be entered by a reader that has entered a list of documents before. -/
structure Faithful (document : Document) : Prop where
  keys : (document.metadata.map Prod.fst).Nodup
  sorted : ∀ member ∈ document.metadata, member.2.ordered = member.2
  metadata : (Json.obj document.metadata).ReadsBack
  embedding : ∀ vector ∈ document.embedding, ∀ x ∈ vector,
    readWith Shape.single (Json.single x).print = .ok x
  nesting : document.toJson.nesting < depthLimit

variable {depth : Nat}

/-- The members of a document's text, of which the metadata and the embedding are given. -/
def members (document : Document) (metadata : Outline) (vectors : List Outline) :
    List (Option String × Outline) :=
  (some "id", .text (some document.id)) :: (some "content", .text (some document.content)) ::
    (some "metadata", metadata) :: vectors.map fun vector => (some "embedding", vector)

theorem exists_members {document : Document} {other : Outline}
    (alike : document.toJson.outlined.Alike other) :
    ∃ metadata vectors others, other = .members others true ∧
      (Json.obj document.metadata).outlined.Alike metadata ∧
      List.Forall₂ (fun vector outline => (Json.arr (vector.map .single)).outlined.Alike outline)
        document.embedding.toList vectors ∧
      (document.members metadata vectors).Perm others := by
  obtain ⟨id, content, members, embedding⟩ := document
  obtain ⟨ordered, others, rfl, each, reordered⟩ := alike.exists_members
  rcases each with _ | @⟨_, ⟨_, idText⟩, _, _, ⟨rfl, idAlike⟩, _ | @⟨_, ⟨_, contentText⟩, _, _,
    ⟨rfl, contentAlike⟩, _ | @⟨_, ⟨_, metadata⟩, _, _, ⟨rfl, metadataAlike⟩, each⟩⟩⟩
  obtain rfl := idAlike.text_eq
  obtain rfl := contentAlike.text_eq
  cases embedding with
  | none =>
      cases each
      exact ⟨metadata, [], others, rfl, metadataAlike, .nil, reordered⟩
  | some vector =>
      rcases each with _ | @⟨_, ⟨_, outline⟩, _, _, ⟨rfl, vectorAlike⟩, _ | _⟩
      exact ⟨metadata, [outline], others, rfl, metadataAlike, .cons vectorAlike .nil, reordered⟩

theorem shape_members {document : Document} {metadata : Outline} {values : List (String × Json)}
    (table : Shape.table depth metadata = .ok values) (embedding : Option (Option Embedding))
    {vectors : List Outline} (read : List.Forall₂ (fun value outline =>
      Shape.optional (Shape.list Shape.single) depth outline = .ok value)
      embedding.toList vectors) {others : List (Option String × Outline)}
    (reordered : (document.members metadata vectors).Perm others) :
    Draft.shape (depth + 1) (.members others true) =
      .ok ⟨some document.id, some document.content, some values, embedding⟩ := by
  obtain ⟨id, content, members, _⟩ := document
  have begun : ∀ {held parts}, List.Forall₂ (Draft.Part.Read depth) held parts →
      List.Forall₂ (Draft.Part.Read depth)
        ((some "id", .text (some id)) :: (some "content", .text (some content)) ::
          (some "metadata", metadata) :: held)
        (.id id :: .content content :: .metadata values :: parts) := fun later =>
    .cons (Draft.Part.read_id depth id) (.cons (Draft.Part.read_content depth content)
      (.cons (Draft.Part.read_metadata table) later))
  cases embedding with
  | none =>
      cases read
      have fold := Draft.Part.foldlM_read_reordered (begun .nil) (by simp [Draft.Part.name])
        reordered
      simp only [Draft.shape, Shape.record, fold]
      rfl
  | some vector =>
      rcases read with _ | ⟨vectorRead, _ | _⟩
      have fold := Draft.Part.foldlM_read_reordered
        (begun (.cons (Draft.Part.read_embedding vectorRead) .nil)) (by simp [Draft.Part.name])
        reordered
      simp only [Draft.shape, Shape.record, fold]
      rfl

theorem table_alike {members : List (String × Json)} {other : Outline}
    (alike : (Json.obj members).outlined.Alike other) (distinct : (members.map Prod.fst).Nodup)
    (sorted : ∀ member ∈ members, member.2.ordered = member.2)
    (readsBack : (Json.obj members).ReadsBack) (fits : (Json.obj members).nesting ≤ depth) :
    ∃ reread, Shape.table depth other = .ok reread ∧ members.Perm reread := by
  obtain ⟨room, rfl⟩ : ∃ room, depth = room + 1 :=
    Nat.exists_eq_add_one.mpr (Nat.lt_of_lt_of_le (Nat.succ_pos _) fits)
  obtain ⟨value, read, same⟩ :=
    Outline.value_alike _ alike (value_outlined _ readsBack fits)
  obtain ⟨_, held, rfl, -⟩ := alike.exists_members
  obtain ⟨values, rfl, -⟩ := same.exists_members
  obtain ⟨_, found, -, ⟨⟩⟩ := Outline.value_members_eq_ok_iff.mp read
  have permuted := perm_ordered_of_same same sorted
  have keys : ((orderedMembers values).map Prod.fst).Nodup :=
    (permuted.map Prod.fst).nodup_iff.mp distinct
  refine ⟨orderedMembers values, ?_, permuted⟩
  simp only [Shape.table, found]
  exact congrArg Except.ok (lastMembers_of_nodup keys)

theorem embedding_alike {vector : Embedding} {other : Outline}
    (alike : (Json.arr (vector.map .single)).outlined.Alike other)
    (readsBack : ∀ x ∈ vector, readWith Shape.single (Json.single x).print = .ok x)
    (fits : 0 < depth) :
    Shape.optional (Shape.list Shape.single) depth other = .ok (some vector) := by
  obtain ⟨room, rfl⟩ : ∃ room, depth = room + 1 := Nat.exists_eq_add_one.mpr fits
  obtain ⟨others, rfl, each⟩ := alike.exists_items
  have entries : List.Forall₂ (fun item x => Shape.single room item = .ok x) others vector := by
    clear alike
    induction vector generalizing others with
    | nil =>
        cases each
        exact .nil
    | cons x rest ih =>
        cases each with
        | cons here later =>
            obtain ⟨first, others⟩ := List.forall_mem_cons.mp readsBack
            rw [readWith_print, single_alike here depthLimit room] at first
            exact .cons first (ih others _ later)
  change some <$> Shape.list Shape.single (room + 1) (.items others true) = _
  rw [list_items_eq_ok_iff.mpr ⟨entries, rfl⟩]
  rfl

/-- A faithful document is read from any text that is alike to its own. -/
theorem shape_alike {document : Document} (faithful : document.Faithful) {other : Outline}
    (alike : document.toJson.outlined.Alike other) (fits : document.toJson.nesting ≤ depth) :
    ∃ metadata, Draft.shape depth other = .ok ⟨some document.id, some document.content,
        some metadata, document.embedding.map some⟩ ∧ document.metadata.Perm metadata := by
  obtain ⟨room, rfl⟩ : ∃ room, depth = room + 1 :=
    Nat.exists_eq_add_one.mpr (Nat.lt_of_lt_of_le (Nat.succ_pos _) fits)
  have inside : (Json.obj document.metadata).nesting ≤ room := by
    simp only [toJson, nesting, List.cons_append, List.nil_append, nestingMembers] at fits
    simp only [nesting]
    omega
  obtain ⟨metadata, vectors, others, rfl, metadataAlike, vectorsAlike, reordered⟩ :=
    exists_members alike
  obtain ⟨reread, table, same⟩ :=
    table_alike metadataAlike faithful.keys faithful.sorted faithful.metadata inside
  have read : List.Forall₂ (fun value outline =>
      Shape.optional (Shape.list Shape.single) room outline = .ok value)
      (document.embedding.map some).toList vectors := by
    have readsBack := faithful.embedding
    revert vectorsAlike readsBack
    cases document.embedding with
    | none =>
        rintro ⟨⟩ -
        exact .nil
    | some vector =>
        rintro (_ | ⟨vectorAlike, _ | _⟩) readsBack
        exact .cons (embedding_alike vectorAlike (readsBack vector rfl)
          (Nat.lt_of_lt_of_le (Nat.succ_pos _) inside)) .nil
  exact ⟨reread, shape_members table _ read reordered, same⟩

theorem vector_isOk_iff {vector : Embedding} {other : Outline}
    (alike : (Json.arr (vector.map .single)).outlined.Alike other) (depth : Nat) :
    (Shape.optional (Shape.list Shape.single) (depth + 1) other).isOk = true ↔
      ∀ x ∈ vector, x.isFinite = true := by
  obtain ⟨others, rfl, each⟩ := alike.exists_items
  have optional : (Shape.optional (Shape.list Shape.single) (depth + 1) (.items others true)).isOk =
      (Shape.list Shape.single (depth + 1) (.items others true)).isOk := by
    change (some <$> Shape.list Shape.single (depth + 1) (.items others true)).isOk = _
    cases Shape.list Shape.single (depth + 1) (.items others true) <;> rfl
  rw [optional, list_items_isOk_iff]
  simp only [and_true]
  clear alike optional
  induction vector generalizing others with
  | nil =>
      cases each
      simp
  | cons x rest ih =>
      cases each with
      | cons here later =>
          rw [List.forall_mem_cons, List.forall_mem_cons, ← single_alike here depth depth,
            single_isOk_iff]
          exact and_congr_right' (ih _ later)

/-- A document that is read without an embedding is read with one exactly if all entries of that are
finite. -/
theorem shape_isOk_iff {document : Document} {vector : Embedding}
    (readable : (Draft.shape depth { document with embedding := none }.toJson.outlined).isOk = true)
    {other : Outline} (alike : { document with embedding := some vector }.toJson.outlined.Alike other) :
    (Draft.shape depth other).isOk = true ↔ ∀ x ∈ vector, x.isFinite = true := by
  -- The document is one object and its metadata another, so two levels have been entered at least.
  cases depth with
  | zero => cases readable
  | succ depth =>
      have own : (Shape.table depth (Json.obj document.metadata).outlined).isOk = true :=
        record_member_isOk readable (.tail _ (.tail _ (.head _))) rfl
      obtain ⟨metadata, vectors, others, rfl, metadataAlike, vectorsAlike, reordered⟩ :=
        exists_members alike
      rcases vectorsAlike with _ | @⟨_, outline, _, _, vectorAlike, _ | _⟩
      cases depth with
      | zero => cases own
      | succ depth =>
          rw [← vector_isOk_iff vectorAlike depth]
          constructor
          · intro read
            have present : (some "embedding", outline) ∈ others :=
              reordered.subset (.tail _ (.tail _ (.tail _ (.head _))))
            exact record_member_isOk read present rfl
          · intro read
            obtain ⟨values, table⟩ := isOk_iff_exists.mp (table_isOk_alike metadataAlike own)
            obtain ⟨embedding, list⟩ := isOk_iff_exists.mp read
            exact isOk_iff_exists.mpr
              ⟨_, shape_members table (some embedding) (.cons list .nil) reordered⟩

end Document

end VectorSearch
