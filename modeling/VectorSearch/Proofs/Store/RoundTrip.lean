import VectorSearch.Proofs.Store.Servers

namespace VectorSearch

namespace PayloadStore

variable {store : PayloadStore} {network : Http.Network σ} {takes : Document → Prop}
  {holds : σ → List Document → Prop} {world : World σ} {held : List Document}

theorem drafts_alike {documents : List Document} (faithful : ∀ document ∈ documents,
      document.Faithful) {outlines : List Json.Outline}
    (alike : List.Forall₂ Json.Outline.Alike
      (Json.outlinedItems (documents.map Document.toJson)) outlines) :
    ∃ drafts, List.Forall₂ (fun outline draft =>
        Document.Draft.shape (Json.depthLimit - 1) outline = .ok draft) outlines drafts ∧
      ∀ ids, List.Forall₂ Document.Same documents (Document.Draft.completeAll ids drafts).1 := by
  induction documents generalizing outlines with
  | nil =>
      cases alike
      exact ⟨[], .nil, fun _ => .nil⟩
  | cons document rest ih =>
      cases alike with
      | cons here later =>
          obtain ⟨first, others⟩ := List.forall_mem_cons.mp faithful
          obtain ⟨metadata, read, same⟩ :=
            Document.shape_alike first here (Nat.le_of_lt_succ first.nesting)
          obtain ⟨drafts, readRest, sameRest⟩ := ih others later
          refine ⟨_ :: drafts, .cons read readRest, fun ids => .cons ?_ (sameRest ids)⟩
          refine ⟨rfl, rfl, same, ?_⟩
          cases document.embedding <;> rfl

/-- A text that lists faithful documents is read back as the same documents. -/
theorem documents_readBack {documents : List Document}
    (faithful : ∀ document ∈ documents, document.Faithful) :
    ∃ drafts, Json.readWith (Json.Shape.list Document.Draft.shape)
        (Json.arr (documents.map Document.toJson)).print = .ok drafts ∧
      ∀ ids, List.Forall₂ Document.Same documents (Document.Draft.completeAll ids drafts).1 := by
  obtain ⟨drafts, read, same⟩ := drafts_alike faithful (Json.Outline.alike_refl_each _)
  refine ⟨drafts, ?_, same⟩
  rw [Json.readWith_print]
  exact Json.list_items_eq_ok_iff.mpr ⟨read, rfl⟩

theorem fetch_said (reaches : store.Reaches) (keeps : store.Keeps network takes holds)
    (holding : holds world.state held) :
    ∃ outlines, List.Forall₂ Json.Outline.Alike
        (Json.outlinedItems (held.map Document.toJson)) outlines ∧
      (((store.backend network).fetch none).outcome world).1 =
        match Json.Shape.list Document.Draft.shape Json.depthLimit (.items outlines true) with
        | .ok drafts => .ok (Document.Draft.completeAll world.ids drafts).1
        | .error _ => .error (.unreadable "the answer is no list of documents") := by
  obtain ⟨url, found, isHttp⟩ := reaches.all
  have requested : store.fetchRequest none = .ok ⟨.get, url, store.headers, none⟩ := by
    simp only [fetchRequest, query, bind, Except.bind, found]
    rfl
  let request : Http.Request := ⟨.get, url, store.headers, none⟩
  have addressed : store.endpoint "payloads" none = .ok request.url := found
  obtain ⟨response, after, sent, success, -, outline, said, alike⟩ :=
    keeps.list holding (rfl : request.method = .get) addressed
  have performed := outcome_perform (reaches.sendable isHttp _) sent store "fetch_candidates"
  rw [if_pos success] at performed
  obtain ⟨outlines, rfl, each⟩ := alike.exists_items
  refine ⟨outlines, each, ?_⟩
  simp only [backend, Act.outcome_bind, Act.outcome_ofExcept, requested, performed,
    Json.readWith_of_outline said]
  cases Json.Shape.list Document.Draft.shape Json.depthLimit (.items outlines true) <;> rfl

theorem fetch_alike (reaches : store.Reaches) (keeps : store.Keeps network takes holds)
    (faithful : ∀ document ∈ held, document.Faithful) (holding : holds world.state held) :
    ∃ fetched, (((store.backend network).fetch none).outcome world).1 = .ok fetched ∧
      List.Forall₂ Document.Same held fetched := by
  obtain ⟨outlines, each, fetched⟩ := fetch_said reaches keeps holding
  obtain ⟨drafts, read, same⟩ := drafts_alike faithful each
  have list : Json.Shape.list Document.Draft.shape Json.depthLimit (.items outlines true) =
      .ok drafts := Json.list_items_eq_ok_iff.mpr ⟨read, rfl⟩
  rw [list] at fetched
  exact ⟨_, fetched, same world.ids⟩

/-- Whatever is pushed, one by one and in batches, against a server that keeps what it takes: a fetch
returns exactly the documents of the operations that succeeded, in order. Those are the operations
whose documents all pass the store's check, if the server takes all that it is sent. -/
theorem fetch_after_run (reaches : store.Reaches) (keeps : store.Keeps network takes holds)
    (operations : List Backend.Operation) (empty : holds world.state [])
    (faithful : ∀ document ∈ ((store.backend network).run operations world).1,
      document.Faithful ∧ takes document) :
    let outcome := (store.backend network).run operations world
    (∃ fetched, (((store.backend network).fetch none).outcome outcome.2).1 = .ok fetched ∧
      List.Forall₂ Document.Same outcome.1 fetched) ∧
    ((∀ operation ∈ operations, store.admits operation = true →
        ∀ document ∈ operation.documents, takes document) →
      outcome.1 = (operations.filter store.admits).flatMap Backend.Operation.documents) := by
  intro outcome
  obtain ⟨kept, accepted⟩ := run_holds reaches keeps operations empty
  have holding := kept fun document present => (faithful document present).2
  exact ⟨fetch_alike reaches keeps (fun document present => (faithful document present).1) holding,
    accepted⟩

theorem fetch_after_run_mixed :
    let store : PayloadStore :=
      ⟨.versioned, "http://127.0.0.1:7700", some "key", "notes", some 2, .wrapped⟩
    let first : Document := ⟨"a", "two\nlines",
      [("tags", .arr [.str "\u03b1 \"x\"", .null]), ("weight", .float 0.5),
        ("place", .obj [("lat", .int (-3)), ("lon", .int 7)])],
      some [0.1, -1]⟩
    let second : Document := ⟨"b", "", [], some [0, 2.5]⟩
    let short : Document := ⟨"c", "short", [], some [1]⟩
    let operations : List Backend.Operation :=
      [.push first, .push short, .pushBatch [second, first], .pushBatch [second, short]]
    let outcome := (store.backend valueKeeper).run operations (.start [] ⟨0⟩)
    outcome.1 = [first, second, first] ∧
      ∃ fetched, (((store.backend valueKeeper).fetch none).outcome outcome.2).1 = .ok fetched ∧
        List.Forall₂ Document.Same [first, second, first] fetched := by
  intro store first second short operations outcome
  have reaches : store.Reaches :=
    .of_isHttp (by decide +kernel) (by decide +kernel) (by decide +kernel)
  have keeps := keeps_valueKeeper store
  have half : Json.parse (Json.float 0.5).print = .ok (.float 0.5) :=
    Json.parse_float_eq_ok_iff.mpr (by decide +kernel)
  have singles : ∀ x ∈ ([0.1, -1, 0, 2.5] : Embedding),
      Json.readWith Json.Shape.single (Json.single x).print = .ok x := by decide +kernel
  have sorted : ∀ member ∈ first.metadata, member.2.ordered = member.2 :=
    List.forall_mem_cons.mpr ⟨rfl, List.forall_mem_cons.mpr ⟨rfl, List.forall_mem_singleton.mpr
      (congrArg Json.obj (Json.sortedMembers_of_sorted (by decide) (by decide)))⟩⟩
  have firstFaithful : first.Faithful :=
    ⟨by decide, sorted,
      ⟨⟨trivial, trivial, trivial⟩, half,
        ⟨⟨by decide, by decide⟩, ⟨by decide, by decide⟩, trivial⟩, trivial⟩,
      by rintro _ ⟨⟩ x member; exact singles x (List.mem_append_left [0, 2.5] member), by decide⟩
  have secondFaithful : second.Faithful :=
    ⟨by decide, by simp [second], trivial,
      by rintro _ ⟨⟩ x member; exact singles x (List.mem_append_right [0.1, -1] member), by decide⟩
  have reread : ∀ pair ∈ ([(0.1, 0.1), (-1, -1), (0, 0), (2.5, 2.5)] : List (Float32 × Float)),
      Json.parse (Json.single pair.1).print = .ok (.float pair.2) ∧
        (Json.float pair.2).ReadsBack := by
    intro pair member
    refine ⟨Json.parse_single_eq_ok_iff.mpr ?_, Json.parse_float_eq_ok_iff.mpr ?_⟩ <;>
      (revert pair; decide +kernel)
  have firstTaken : Rereadable first := by
    refine .of_faithful firstFaithful ?_
    rintro _ ⟨⟩
    exact List.forall_mem_cons.mpr ⟨⟨_, reread (0.1, 0.1) (by simp)⟩,
      List.forall_mem_singleton.mpr ⟨_, reread (-1, -1) (by simp)⟩⟩
  have secondTaken : Rereadable second := by
    refine .of_faithful secondFaithful ?_
    rintro _ ⟨⟩
    exact List.forall_mem_cons.mpr ⟨⟨_, reread (0, 0) (by simp)⟩,
      List.forall_mem_singleton.mpr ⟨_, reread (2.5, 2.5) (by simp)⟩⟩
  have empty : Lists (World.start [] ⟨0⟩).state [] := .nil
  have sent : ∀ operation ∈ operations, store.admits operation = true →
      ∀ document ∈ operation.documents, Rereadable document := by
    simp only [operations, List.forall_mem_cons]
    exact ⟨fun _ => List.forall_mem_singleton.mpr firstTaken, nofun,
      fun _ => List.forall_mem_cons.mpr ⟨secondTaken, List.forall_mem_singleton.mpr firstTaken⟩,
      nofun, nofun⟩
  have accepted : outcome.1 = [first, second, first] := (run_holds reaches keeps _ empty).2 sent
  have faithful : ∀ document ∈ outcome.1, document.Faithful ∧ Rereadable document := by
    simp only [accepted, List.forall_mem_cons]
    exact ⟨⟨firstFaithful, firstTaken⟩, ⟨secondFaithful, secondTaken⟩,
      ⟨firstFaithful, firstTaken⟩, nofun⟩
  obtain ⟨fetched, -⟩ := fetch_after_run reaches keeps _ empty faithful
  rw [accepted] at fetched
  exact ⟨accepted, fetched⟩

end PayloadStore

end VectorSearch
