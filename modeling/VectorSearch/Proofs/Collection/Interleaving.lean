import VectorSearch.Proofs.Collection.Calls

namespace VectorSearch

/-- The calls that embedded documents and stored each with its vector, in turn. -/
def addCalls : List Document → List Embedding → List Call.Answered
  | document :: documents, vector :: vectors =>
      ⟨.embed document.content, .ok vector⟩ ::
        ⟨.push { document with embedding := some vector }, .ok ()⟩ :: addCalls documents vectors
  | _, _ => []

/-- What adding documents comes to: all of them are stored, or those before the first one that is
not embedded or not stored. -/
inductive Adds (documents : List Document) :
    List Call.Answered → Except StoreError Nat → Prop where
  | added {vectors : List Embedding} (answered : vectors.length = documents.length) :
      Adds documents (addCalls documents vectors) (.ok documents.length)
  | unembedded {done rest : List Document} {document : Document} {vectors : List Embedding}
      {reason : EmbeddingError} (order : documents = done ++ document :: rest)
      (answered : vectors.length = done.length) :
      Adds documents (addCalls done vectors ++ [⟨.embed document.content, .error reason⟩])
        (.error (.embedding reason))
  | unstored {done rest : List Document} {document : Document} {vectors : List Embedding}
      {vector : Embedding} {reason : StoreError} (order : documents = done ++ document :: rest)
      (answered : vectors.length = done.length) :
      Adds documents
        (addCalls done vectors ++ [⟨.embed document.content, .ok vector⟩,
          ⟨.push { document with embedding := some vector }, .error reason⟩])
        (.error reason)

theorem add_eq (collection : Collection σ) (concurrency : Nat) (documents : List Document) :
    collection.add concurrency documents = do
      let _ ← documents.mapM collection.addOne
      return documents.length := by
  have positive : 0 < max 1 concurrency := by omega
  rw [Collection.add, Act.buffered_eq_mapM positive, List.nil_append]

theorem Adds.cons {document : Document} {documents : List Document} {vector : Embedding}
    {calls : List Call.Answered} {result : Except StoreError Nat}
    (adds : Adds documents calls result) :
    Adds (document :: documents)
      (⟨.embed document.content, .ok vector⟩ ::
        ⟨.push { document with embedding := some vector }, .ok ()⟩ :: calls)
      (result.map (· + 1)) := by
  cases adds with
  | @added vectors answered =>
      exact @Adds.added _ (vector :: vectors) (congrArg (· + 1) answered)
  | @unembedded done rest other vectors reason order answered =>
      subst order
      exact @Adds.unembedded _ (document :: done) rest other (vector :: vectors) reason rfl
        (congrArg (· + 1) answered)
  | @unstored done rest other vectors last reason order answered =>
      subst order
      exact @Adds.unstored _ (document :: done) rest other (vector :: vectors) last reason rfl
        (congrArg (· + 1) answered)

/-- One document is stored with the vector for its text, or it ends an addition that has come to
it. -/
theorem addOne_makes (collection : Collection σ) (document : Document) (rest : List Document)
    (world : World σ) :
    (∃ vector after, (collection.addOne document).outcome world = (.ok (), after) ∧
      collection.Makes world [⟨.embed document.content, .ok vector⟩,
        ⟨.push { document with embedding := some vector }, .ok ()⟩] after) ∨
    ∃ reason calls after, (collection.addOne document).outcome world = (.error reason, after) ∧
      Adds (document :: rest) calls (.error reason) ∧ collection.Makes world calls after := by
  simp only [Collection.addOne, Collection.embed, Act.outcome_bind, Act.outcome_mapError]
  cases embedded : (collection.embedder.embed document.content).outcome world with
  | mk answer next =>
      cases answer with
      | error reason =>
          right
          exact ⟨.embedding reason, _, next, rfl,
            @Adds.unembedded _ [] rest document [] reason rfl rfl, .cons embedded .nil⟩
      | ok vector =>
          cases stored : (collection.backend.push
              { document with embedding := some vector }).outcome next with
          | mk answer after =>
              cases answer with
              | error reason =>
                  right
                  exact ⟨reason, _, after, stored,
                    @Adds.unstored _ [] rest document [] vector reason rfl rfl,
                    .cons embedded (.cons stored .nil)⟩
              | ok done =>
                  left
                  exact ⟨vector, after, stored, .cons embedded (.cons stored .nil)⟩

theorem mapM_addOne_makes (collection : Collection σ) (documents : List Document)
    (world : World σ) :
    ∃ calls,
      Adds documents calls
        (((documents.mapM collection.addOne).outcome world).1.map fun _ => documents.length) ∧
      collection.Makes world calls ((documents.mapM collection.addOne).outcome world).2 := by
  induction documents generalizing world with
  | nil => exact ⟨[], @Adds.added [] [] rfl, .nil⟩
  | cons document documents ih =>
      rw [Act.outcome_mapM_cons]
      rcases addOne_makes collection document documents world with
        ⟨vector, next, added, made⟩ | ⟨reason, calls, after, refused, adds, made⟩
      · rw [added]
        obtain ⟨calls, adds, others⟩ := ih next
        refine ⟨_, ?_, made.append others⟩
        have counted := @Adds.cons document documents vector calls _ adds
        dsimp only
        generalize ((documents.mapM collection.addOne).outcome next).1 = result at counted ⊢
        cases result <;> exact counted
      · rw [refused]
        exact ⟨calls, adds, made⟩

theorem add_makes (collection : Collection σ) (concurrency : Nat) (documents : List Document)
    (world : World σ) :
    ∃ calls,
      Adds documents calls ((collection.add concurrency documents).outcome world).1 ∧
      collection.Makes world calls ((collection.add concurrency documents).outcome world).2 := by
  rw [add_eq, bind_pure_comp, Act.outcome_map]
  exact mapM_addOne_makes collection documents world

theorem addOne_carrying (collection : Collection σ) (document : Document)
    (carried : Option Embedding) :
    collection.addOne { document with embedding := carried } = collection.addOne document :=
  rfl

theorem add_carrying (collection : Collection σ) (concurrency : Nat) (documents : List Document)
    (carried : Nat → Option Embedding) :
    collection.add concurrency (documents.mapIdx fun place document =>
        { document with embedding := carried place }) =
      collection.add concurrency documents := by
  rw [add_eq, add_eq, List.length_mapIdx]
  congr 1
  -- The places shift by one under the first document, so the claim is about any way to carry.
  induction documents generalizing carried with
  | nil => rfl
  | cons document documents ih =>
      rw [List.mapIdx_cons, List.mapM_cons, List.mapM_cons, addOne_carrying]
      have others := ih fun place => carried (place + 1)
      rw [others]

/-- An addition asks its embedder and its backend for what adding the documents comes to, however
many of them are embedded at a time: each text and then its document, up to the first call that
fails, whose failure is returned. It comes to the same whatever embeddings the documents carry. -/
theorem add_recorded_calls (collection : Collection σ) (concurrency : Nat)
    (documents : List Document) (world : World σ) :
    let recorded := collection.recorded
    let outcome := (recorded.add concurrency documents).outcome world
    (∃ calls, Adds documents calls outcome.1 ∧ recorded.Makes world calls outcome.2 ∧
      outcome.2.calls = (calls.map (·.call)).reverse ++ world.calls) ∧
    ∀ carried : Nat → Option Embedding,
      (recorded.add concurrency (documents.mapIdx fun place document =>
        { document with embedding := carried place })).outcome world = outcome := by
  intro recorded outcome
  refine ⟨?_, ?_⟩
  · obtain ⟨calls, adds, made⟩ := add_makes recorded concurrency documents world
    exact ⟨calls, adds, made, made.recorded_calls⟩
  · intro carried
    rw [add_carrying]

example :
    let collection : Collection Unit :=
      ⟨⟨"none", fun _ => pure (), fun _ => pure (), fun _ => pure []⟩,
        ⟨fun text => pure (if text = "x" then [1] else [2])⟩, .abort⟩
    let documents := [⟨"a", "x", [], some [3]⟩, ⟨"b", "y", [], none⟩]
    let outcome := (collection.recorded.add 2 documents).outcome (.start () ⟨0⟩)
    outcome.2.calls.reverse =
      [.embed "x", .push ⟨"a", "x", [], some [1]⟩, .embed "y", .push ⟨"b", "y", [], some [2]⟩] := by
  cbv

end VectorSearch
