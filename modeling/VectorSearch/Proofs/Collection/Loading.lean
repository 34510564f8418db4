import VectorSearch.Proofs.Collection.Calls

namespace VectorSearch

def unembedded (documents : List Document) : List Document :=
  documents.filter (·.embedding.isNone)

/-- The calls that turned the texts of documents into vectors. -/
def embedCalls (documents : List Document) (vectors : List Embedding) : List Call.Answered :=
  List.zipWith (fun document vector => ⟨.embed document.content, .ok vector⟩) documents vectors

/-- The calls that stored slices. -/
def pushCalls (slices : List (List Document)) : List Call.Answered :=
  slices.map fun slice => ⟨.pushBatch slice, .ok ()⟩

/-- Vectors are given to the documents that have none, one each and in order. -/
inductive Filled : List Document → List Embedding → List Document → Prop where
  | nil : Filled [] [] []
  | given {document : Document} {documents filled : List Document} {vectors : List Embedding}
      (embedded : document.embedding.isSome = true) (rest : Filled documents vectors filled) :
      Filled (document :: documents) vectors (document :: filled)
  | missing {document : Document} {documents filled : List Document} {vector : Embedding}
      {vectors : List Embedding} (lacking : document.embedding = none)
      (rest : Filled documents vectors filled) :
      Filled (document :: documents) (vector :: vectors)
        ({ document with embedding := some vector } :: filled)

/-- What embedding documents comes to: a vector for every document without one, or the failure of
the first one that gets none. -/
inductive Embeds (documents : List Document) :
    List Call.Answered → Except StoreError (List Document) → Prop where
  | filled {vectors : List Embedding} {complete : List Document}
      (filled : Filled documents vectors complete) :
      Embeds documents (embedCalls (unembedded documents) vectors) (.ok complete)
  | refused {done rest : List Document} {document : Document} {vectors : List Embedding}
      {reason : EmbeddingError} (order : unembedded documents = done ++ document :: rest)
      (answered : vectors.length = done.length) :
      Embeds documents
        (embedCalls done vectors ++ [⟨.embed document.content, .error reason⟩])
        (.error (.embedding reason))

/-- A list cut into slices of a thousand, of which only the last may be shorter. -/
structure Sliced (items : List α) (slices : List (List α)) : Prop where
  flatten : slices.flatten = items
  sizes : ∀ slice ∈ slices, 1 ≤ slice.length ∧ slice.length ≤ 1000
  full : ∀ slice ∈ slices.dropLast, slice.length = 1000

/-- What storing slices comes to: all of them are stored, or those before the first one that is
refused. -/
inductive Stores (slices : List (List Document)) :
    List Call.Answered → Except StoreError Unit → Prop where
  | stored : Stores slices (pushCalls slices) (.ok ())
  | refused {done rest : List (List Document)} {slice : List Document} {reason : StoreError}
      (order : slices = done ++ slice :: rest) :
      Stores slices (pushCalls done ++ [⟨.pushBatch slice, .error reason⟩]) (.error reason)

inductive Loads (documents : List Document) :
    List Call.Answered → Except StoreError Nat → Prop where
  | unembedded {calls : List Call.Answered} {reason : StoreError}
      (embeds : Embeds documents calls (.error reason)) : Loads documents calls (.error reason)
  | embedded {calls pushes : List Call.Answered} {complete : List Document}
      {slices : List (List Document)} {result : Except StoreError Unit}
      (embeds : Embeds documents calls (.ok complete)) (sliced : Sliced complete slices)
      (stores : Stores slices pushes result) :
      Loads documents (calls ++ pushes) (result.map fun _ => documents.length)

theorem batches_cons (item : α) (rest : List α) :
    batches (item :: rest) =
      (item :: rest).take batchSize :: batches ((item :: rest).drop batchSize) := by
  rw [batches]

theorem batches_sliced (items : List α) : Sliced items (batches items) := by
  induction items using batches.induct with
  | case1 => constructor <;> simp [batches]
  | case2 item rest ih =>
      rw [batches_cons]
      refine ⟨?_, ?_, ?_⟩
      · rw [List.flatten_cons, ih.flatten, List.take_append_drop]
      · intro slice member
        rcases List.mem_cons.mp member with rfl | later
        · simp only [batchSize, List.length_take, List.length_cons]
          omega
        · exact ih.sizes slice later
      · intro slice member
        cases tail : (item :: rest).drop batchSize with
        | nil => simp [tail, batches] at member
        | cons next others =>
            rw [tail, batches_cons, List.dropLast_cons_cons, ← batches_cons, ← tail] at member
            rcases List.mem_cons.mp member with rfl | later
            · have size := congrArg List.length tail
              simp only [batchSize, List.length_drop, List.length_cons] at size
              simp only [batchSize, List.length_take, List.length_cons]
              omega
            · exact ih.full slice later

theorem Filled.length_eq {documents complete : List Document} {vectors : List Embedding}
    (filled : Filled documents vectors complete) : complete.length = documents.length := by
  induction filled with
  | nil => rfl
  | given _ _ ih | missing _ _ ih => rw [List.length_cons, List.length_cons, ih]

theorem unembedded_cons_given {document : Document}
    (embedded : document.embedding.isSome = true) (documents : List Document) :
    unembedded (document :: documents) = unembedded documents :=
  List.filter_cons_of_neg (by simpa using Option.isSome_iff_ne_none.mp embedded)

theorem unembedded_cons_missing {document : Document} (lacking : document.embedding = none)
    (documents : List Document) :
    unembedded (document :: documents) = document :: unembedded documents :=
  List.filter_cons_of_pos (by simp [lacking])

theorem Embeds.cons_given {document : Document} {documents : List Document}
    {calls : List Call.Answered} {result : Except StoreError (List Document)}
    (embedded : document.embedding.isSome = true) (embeds : Embeds documents calls result) :
    Embeds (document :: documents) calls (result.map (document :: ·)) := by
  cases embeds with
  | filled filled =>
      rw [← unembedded_cons_given embedded]
      exact .filled (.given embedded filled)
  | refused order answered =>
      rw [← unembedded_cons_given embedded] at order
      exact .refused order answered

theorem Embeds.cons_missing {document : Document} {documents : List Document}
    {calls : List Call.Answered} {result : Except StoreError (List Document)} {vector : Embedding}
    (lacking : document.embedding = none) (embeds : Embeds documents calls result) :
    Embeds (document :: documents) (⟨.embed document.content, .ok vector⟩ :: calls)
      (result.map ({ document with embedding := some vector } :: ·)) := by
  have first := unembedded_cons_missing lacking documents
  cases embeds with
  | @filled vectors complete filled =>
      have calls : embedCalls (unembedded (document :: documents)) (vector :: vectors) =
          ⟨.embed document.content, .ok vector⟩ :: embedCalls (unembedded documents) vectors := by
        rw [first]
        rfl
      rw [← calls]
      exact .filled (.missing lacking filled)
  | @refused done rest other vectors reason order answered =>
      rw [order] at first
      exact @refused _ (document :: done) rest other (vector :: vectors) reason first
        (by simp [answered])

variable {collection : Collection σ}

theorem embedMissing_given {document : Document} (embedded : document.embedding.isSome = true) :
    collection.embedMissing document = pure document := by
  obtain ⟨vector, found⟩ := Option.isSome_iff_exists.mp embedded
  rw [Collection.embedMissing, found]

theorem embedMissing_missing {document : Document} (lacking : document.embedding = none)
    (world : World σ) :
    (collection.embedMissing document).outcome world =
      (((collection.embedder.embed document.content).outcome world).1.mapError StoreError.embedding
        |>.map fun vector => { document with embedding := some vector },
        ((collection.embedder.embed document.content).outcome world).2) := by
  rw [Collection.embedMissing, lacking]
  simp only [Act.outcome_bind, Collection.embed, Act.outcome_mapError]
  obtain ⟨_ | vector, after⟩ := (collection.embedder.embed document.content).outcome world <;> rfl

theorem mapM_embedMissing (collection : Collection σ) (documents : List Document)
    (world : World σ) :
    ∃ calls,
      Embeds documents calls ((documents.mapM collection.embedMissing).outcome world).1 ∧
      collection.Makes world calls ((documents.mapM collection.embedMissing).outcome world).2 := by
  induction documents generalizing world with
  | nil => exact ⟨[], .filled .nil, .nil⟩
  | cons document documents ih =>
      rw [Act.outcome_mapM_cons]
      by_cases embedded : document.embedding.isSome = true
      · obtain ⟨calls, embeds, makes⟩ := ih world
        rw [embedMissing_given embedded, Act.outcome_pure]
        exact ⟨calls, embeds.cons_given embedded, makes⟩
      · have lacking : document.embedding = none := Option.not_isSome_iff_eq_none.mp embedded
        rw [embedMissing_missing lacking]
        cases answered : (collection.embedder.embed document.content).outcome world with
        | mk answer next =>
            cases answer with
            | error reason =>
                have order := unembedded_cons_missing lacking documents
                exact ⟨_, @Embeds.refused _ [] _ document [] reason order rfl,
                  .cons answered .nil⟩
            | ok vector =>
                obtain ⟨calls, embeds, makes⟩ := ih next
                exact ⟨_, embeds.cons_missing lacking, .cons answered makes⟩

theorem Stores.cons {slice : List Document} {slices : List (List Document)}
    {calls : List Call.Answered} {result : Except StoreError Unit}
    (stores : Stores slices calls result) :
    Stores (slice :: slices) (⟨.pushBatch slice, .ok ()⟩ :: calls) result := by
  cases stores with
  | stored => exact .stored
  | @refused done rest other reason order =>
      exact @Stores.refused _ (slice :: done) rest other reason (by rw [order]; rfl)

theorem forM_pushBatch (collection : Collection σ) (slices : List (List Document))
    (world : World σ) :
    ∃ calls,
      Stores slices calls ((slices.forM collection.backend.pushBatch).outcome world).1 ∧
      collection.Makes world calls
        ((slices.forM collection.backend.pushBatch).outcome world).2 := by
  induction slices generalizing world with
  | nil => exact ⟨[], .stored, .nil⟩
  | cons slice slices ih =>
      rw [Act.outcome_forM_cons]
      cases answered : (collection.backend.pushBatch slice).outcome world with
      | mk answer next =>
          cases answer with
          | error reason =>
              exact ⟨_, @Stores.refused _ [] slices slice reason rfl, .cons answered .nil⟩
          | ok stored =>
              obtain ⟨calls, stores, makes⟩ := ih next
              exact ⟨_, stores.cons, .cons answered makes⟩

theorem Embeds.length_eq {documents complete : List Document} {calls : List Call.Answered}
    (embeds : Embeds documents calls (.ok complete)) : complete.length = documents.length := by
  cases embeds with
  | filled filled => exact filled.length_eq

/-- However many documents are embedded at a time, a load embeds one after the other. -/
theorem load_eq (collection : Collection σ) (concurrency : Nat) (documents : List Document) :
    collection.load concurrency documents = do
      let embedded ← documents.mapM collection.embedMissing
      (batches embedded).forM collection.backend.pushBatch
      return embedded.length := by
  have positive : 0 < max 1 concurrency := by omega
  rw [Collection.load, Act.buffered_eq_mapM positive, List.nil_append]

theorem load_makes (collection : Collection σ) (concurrency : Nat) (documents : List Document)
    (world : World σ) :
    ∃ calls,
      Loads documents calls ((collection.load concurrency documents).outcome world).1 ∧
      collection.Makes world calls ((collection.load concurrency documents).outcome world).2 := by
  rw [load_eq, Act.outcome_bind]
  obtain ⟨calls, embeds, made⟩ := mapM_embedMissing collection documents world
  generalize (documents.mapM collection.embedMissing).outcome world = embedding
    at embeds made ⊢
  obtain ⟨reason | complete, next⟩ := embedding
  · exact ⟨calls, .unembedded embeds, made⟩
  · obtain ⟨pushes, stores, pushed⟩ := forM_pushBatch collection (batches complete) next
    simp only [bind_pure_comp, Act.outcome_map]
    rw [embeds.length_eq]
    exact ⟨calls ++ pushes, .embedded embeds (batches_sliced complete) stores, made.append pushed⟩

/-- A load asks its embedder and its backend for what loading the documents comes to, however many
of them are embedded at a time: the texts without a vector in order, none twice, and only when all
of them have one the slices in order, up to the first failure, which is returned. -/
theorem load_recorded_calls (collection : Collection σ) (concurrency : Nat)
    (documents : List Document) (world : World σ) :
    let recorded := collection.recorded
    let outcome := (recorded.load concurrency documents).outcome world
    ∃ calls, Loads documents calls outcome.1 ∧ recorded.Makes world calls outcome.2 ∧
      outcome.2.calls = (calls.map (·.call)).reverse ++ world.calls := by
  intro recorded outcome
  obtain ⟨calls, loads, made⟩ := load_makes recorded concurrency documents world
  exact ⟨calls, loads, made, made.recorded_calls⟩

example :
    let collection : Collection Unit :=
      ⟨⟨"none", fun _ => pure (), fun _ => pure (), fun _ => pure []⟩,
        ⟨fun text => pure (if text = "x" then [1] else [2])⟩, .abort⟩
    let documents := [⟨"a", "x", [], some [3]⟩, ⟨"b", "y", [], none⟩]
    let outcome := (collection.recorded.load 2 documents).outcome (.start () ⟨0⟩)
    outcome.2.calls.reverse =
      [.embed "y", .pushBatch [⟨"a", "x", [], some [3]⟩, ⟨"b", "y", [], some [2]⟩]] := by
  cbv

end VectorSearch
