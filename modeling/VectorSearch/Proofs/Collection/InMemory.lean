import VectorSearch.Deployment
import VectorSearch.Http.Script
import VectorSearch.Proofs.Collection.Adding
import VectorSearch.Proofs.Collection.Loading
import VectorSearch.Proofs.Collection.Search
import VectorSearch.Proofs.Ranking.Failure
import VectorSearch.Proofs.Store.LastWrite

namespace VectorSearch

/-! Why a search of documents in memory can fail.

A store in memory takes in only documents with an embedding, of the store's length where it has one.
Calls are all that an addition or a load makes, so whatever was done to a collection, and whatever
of it failed, the documents that a search ranks all have an embedding.
-/

namespace Collection

/-- A collection of documents in memory, in a part of the world that embedding leaves alone. -/
structure InMemory (collection : Collection σ) (get : σ → MemoryStore)
    (put : MemoryStore → σ → σ) (dimensions : Option Nat) : Prop where
  backend : collection.backend = MemoryStore.backend get put dimensions
  kept : ∀ store state, get (put store state) = store
  apart : ∀ text world,
    get ((collection.embedder.embed text).outcome world).2.state = get world.state

/-- What can be done to a collection. Calls stand for themselves, and for what additions and loads
come to that take turns. -/
inductive Operation where
  | call (call : Call)
  | add (concurrency : Nat) (documents : List Document)
  | load (concurrency : Nat) (documents : List Document)

/-- The world that an operation leaves, whether it succeeds or fails. -/
def perform (collection : Collection σ) : Operation → World σ → World σ
  | .call call, world => (collection.make call world).2
  | .add concurrency documents, world => ((collection.add concurrency documents).outcome world).2
  | .load concurrency documents, world => ((collection.load concurrency documents).outcome world).2

def run (collection : Collection σ) (operations : List Operation) (world : World σ) : World σ :=
  operations.foldl (fun world operation => collection.perform operation world) world

variable {collection : Collection σ} {get : σ → MemoryStore} {put : MemoryStore → σ → σ}
  {dimensions : Option Nat} {world : World σ}

/-- Documents in memory are what was written there, and all of them fit. -/
def Holds (get : σ → MemoryStore) (dimensions : Option Nat) (world : World σ) : Prop :=
  ∃ written, MemoryStore.Holds dimensions written (get world.state)

theorem Holds.make (inMemory : collection.InMemory get put dimensions) (call : Call)
    (world : World σ) (holds : Holds get dimensions world) :
    Holds get dimensions (collection.make call world).2 := by
  obtain ⟨written, held⟩ := holds
  cases call with
  | embed text => exact ⟨written, (inMemory.apart text world).symm ▸ held⟩
  | push document =>
      rw [Collection.make, inMemory.backend, MemoryStore.push_outcome]
      cases checked : MemoryStore.check dimensions document with
      | error reason => exact ⟨written, held⟩
      | ok done =>
          refine ⟨written ++ [document], ?_⟩
          dsimp only
          rw [inMemory.kept]
          exact held.insert (MemoryStore.check_eq_ok_iff.mp checked)
  | pushBatch documents =>
      rw [Collection.make, inMemory.backend, MemoryStore.pushBatch_outcome]
      cases checked : documents.forM (MemoryStore.check dimensions) with
      | error reason => exact ⟨written, held⟩
      | ok done =>
          refine ⟨written ++ documents, ?_⟩
          dsimp only
          rw [inMemory.kept]
          exact held.insertAll (MemoryStore.forM_check_eq_ok_iff.mp checked)
  | fetch filter =>
      rw [Collection.make, inMemory.backend, MemoryStore.fetch_outcome]
      cases filter <;> exact ⟨written, held⟩

theorem Holds.perform (inMemory : collection.InMemory get put dimensions) (operation : Operation)
    (holds : Holds get dimensions world) :
    Holds get dimensions (collection.perform operation world) := by
  cases operation with
  | call call => exact holds.make inMemory call world
  | add concurrency documents =>
      obtain ⟨calls, -, made⟩ := add_makes collection concurrency documents world
      exact made.preserves (fun call _ => Holds.make inMemory call _) holds
  | load concurrency documents =>
      obtain ⟨calls, -, made⟩ := load_makes collection concurrency documents world
      exact made.preserves (fun call _ => Holds.make inMemory call _) holds

theorem Holds.run (inMemory : collection.InMemory get put dimensions)
    (operations : List Operation) (holds : Holds get dimensions world) :
    Holds get dimensions (collection.run operations world) := by
  induction operations generalizing world with
  | nil => exact holds
  | cons operation rest ih => exact ih (holds.perform inMemory operation)

end Collection

variable {dimensions : Option Nat} {query : Embedding}

theorem fault_of_fits {document : Document} {cause : SimilarityError}
    (fits : MemoryStore.Fits dimensions document)
    (faulty : document.candidate.fault? query = some cause) :
    cause ≠ .nullVector ∧ (dimensions = some query.length → cause = .zeroNorm) := by
  obtain ⟨embedding, found, expected⟩ := fits
  simp only [Document.candidate, Candidate.fault?, found] at faulty
  split at faulty
  next different =>
    cases faulty
    exact ⟨by simp, fun same => absurd (expected _ same) different⟩
  next =>
    split at faulty
    next =>
      cases faulty
      exact ⟨by simp, fun _ => rfl⟩
    next => cases faulty

theorem rank_error_of_fits {documents : List Document} {policy : ScoreErrorPolicy}
    {threshold : Float} {topK : Nat} {cause : SimilarityError}
    (fits : ∀ document ∈ documents, MemoryStore.Fits dimensions document)
    (failed : rank policy query ((firstCopies documents).map Document.candidate) threshold topK =
      .error cause) :
    cause ≠ .nullVector ∧ (dimensions = some query.length → cause = .zeroNorm) := by
  cases policy with
  | skip =>
      rw [rank_skip] at failed
      cases failed
  | abort =>
      obtain ⟨candidate, present, faulty⟩ :=
        List.exists_of_findSome?_eq_some (rank_abort_eq_error_iff.mp failed)
      obtain ⟨document, first, rfl⟩ := List.mem_map.mp present
      exact fault_of_fits (fits document (mem_of_mem_firstCopies first)) faulty

namespace Collection

variable {collection : Collection σ} {get : σ → MemoryStore} {put : MemoryStore → σ → σ}
  {world : World σ} {limits : Limits}

theorem InMemory.fetched (inMemory : collection.InMemory get put dimensions)
    (unfiltered : limits.filter = none) (world : World σ) :
    ∃ after, (collection.backend.fetch limits.filter).outcome world =
      (.ok (get world.state).documents, after) := by
  rw [inMemory.backend, unfiltered]
  exact ⟨_, MemoryStore.fetch_outcome get put none world⟩

/-- Why a search that is not filtered can fail: it asks for nothing, or a document has no score. -/
theorem searchByEmbedding_error (inMemory : collection.InMemory get put dimensions)
    (holds : Holds get dimensions world) (unfiltered : limits.filter = none) {reason : StoreError}
    (failed : ((collection.searchByEmbedding query limits).outcome world).1 = .error reason) :
    (limits.topK = 0 ∧ checkTopK 0 = .error reason) ∨
    ∃ cause, reason = .similarity cause ∧ cause ≠ .nullVector ∧
      (dimensions = some query.length → cause = .zeroNorm) := by
  obtain ⟨written, held⟩ := holds
  have fits : ∀ document ∈ (get world.state).documents, MemoryStore.Fits dimensions document := by
    intro document present
    obtain ⟨entry, stored, rfl⟩ := List.mem_map.mp present
    exact held.fits entry stored
  rcases Nat.eq_zero_or_pos limits.topK with nothing | atLeastOne
  · refine .inl ⟨nothing, ?_⟩
    simpa [Collection.searchByEmbedding, nothing, checkTopK] using failed
  · right
    obtain ⟨after, fetched⟩ := inMemory.fetched unfiltered world
    rw [searchByEmbedding_outcome atLeastOne fetched] at failed
    split at failed
    next cause faulty =>
      cases failed
      exact ⟨cause, rfl, rank_error_of_fits fits faulty⟩
    next => cases failed

theorem search_error (inMemory : collection.InMemory get put dimensions)
    (holds : Holds get dimensions world) {request : SearchRequest}
    (unfiltered : request.limits.filter = none) {reason : StoreError}
    (failed : ((collection.search request).outcome world).1 = .error reason) :
    (request.limits.topK = 0 ∧ checkTopK 0 = .error reason) ∨
    (∃ cause, ((collection.embedder.embed request.query).outcome world).1 = .error cause ∧
      reason = .embedding cause) ∨
    ∃ vector, ((collection.embedder.embed request.query).outcome world).1 = .ok vector ∧
      ∃ cause, reason = .similarity cause ∧ cause ≠ .nullVector ∧
        (dimensions = some vector.length → cause = .zeroNorm) := by
  rcases Nat.eq_zero_or_pos request.limits.topK with nothing | atLeastOne
  · refine .inl ⟨nothing, ?_⟩
    simpa [Collection.search, nothing, checkTopK] using failed
  · right
    have asked : checkTopK request.limits.topK = .ok () := if_neg (Nat.ne_of_gt atLeastOne)
    have after := holds.make inMemory (.embed request.query) world
    simp only [Collection.search, Collection.embed, asked, Act.outcome_bind, Act.outcome_ofExcept,
      Act.outcome_mapError] at failed
    rw [Collection.make] at after
    generalize (collection.embedder.embed request.query).outcome world = embedded at failed after ⊢
    obtain ⟨cause | vector, next⟩ := embedded
    · cases failed
      exact .inl ⟨cause, rfl, rfl⟩
    · refine .inr ⟨vector, rfl, ?_⟩
      rcases searchByEmbedding_error inMemory after unfiltered failed with ⟨nothing, -⟩ | scoring
      · exact absurd nothing (Nat.ne_of_gt atLeastOne)
      · exact scoring

/-- Whatever was done to a collection that began with nothing in memory, a search that is not
filtered never finds a document without an embedding. With a query vector of the store's length, a
norm of zero is all that can be wrong with a document. -/
theorem search_in_memory_fails_only_for_zeroNorm (inMemory : collection.InMemory get put dimensions)
    (operations : List Operation) (empty : get world.state = .empty) :
    let after := collection.run operations world
    (∀ query limits, limits.filter = none →
      let answer := ((collection.searchByEmbedding query limits).outcome after).1
      (∀ cause, answer = .error (.similarity cause) →
        cause ≠ .nullVector ∧ (dimensions = some query.length → cause = .zeroNorm)) ∧
      (1 ≤ limits.topK → ∀ reason, answer = .error reason → ∃ cause, reason = .similarity cause)) ∧
    ∀ request : SearchRequest, request.limits.filter = none → ∀ cause,
      ((collection.search request).outcome after).1 = .error (.similarity cause) →
        ∃ vector, ((collection.embedder.embed request.query).outcome after).1 = .ok vector ∧
          cause ≠ .nullVector ∧ (dimensions = some vector.length → cause = .zeroNorm) := by
  intro after
  have holds : Holds get dimensions after :=
    Holds.run inMemory operations ⟨[], empty ▸ MemoryStore.Holds.empty⟩
  refine ⟨fun query limits unfiltered => ⟨fun cause failed => ?_, fun atLeastOne reason failed =>
    ?_⟩, fun request unfiltered cause failed => ?_⟩
  · rcases searchByEmbedding_error inMemory holds unfiltered failed with ⟨-, ⟨⟩⟩ | ⟨_, ⟨⟩, scoring⟩
    exact scoring
  · rcases searchByEmbedding_error inMemory holds unfiltered failed with
      ⟨nothing, -⟩ | ⟨cause, same, -⟩
    · exact absurd nothing (Nat.ne_of_gt atLeastOne)
    · exact ⟨cause, same⟩
  · rcases search_error inMemory holds unfiltered failed with
      ⟨-, ⟨⟩⟩ | ⟨_, -, ⟨⟩⟩ | ⟨vector, embedded, _, ⟨⟩, scoring⟩
    exact ⟨vector, embedded, scoring⟩

theorem documents_embed (endpoint : EmbeddingEndpoint) (network : Http.Network σ) (text : String)
    (world : World (Deployment σ)) :
    (((endpoint.embedder (Deployment.reach network)).embed text).outcome world).2.state.documents =
      world.state.documents := by
  obtain ⟨asks, asked, -⟩ := embed_asks endpoint (Deployment.reach network) text world
  exact asked.kept (P := fun state : Deployment σ => state.documents = world.state.documents)
    (fun _ kept => kept) rfl

/-- What settings set up for a store in memory. -/
theorem inMemory_of_settings {settings : Settings} {memory : MemorySettings}
    (chosen : settings.store = .memory memory) (network : Http.Network σ) :
    ∃ collection, settings.collection network = .ok collection ∧
      collection.InMemory Deployment.documents Deployment.setDocuments memory.dimensions := by
  have built : settings.collection network = .ok
      ⟨MemoryStore.backend Deployment.documents Deployment.setDocuments memory.dimensions,
        settings.embedding.endpoint.embedder (Deployment.reach network),
        settings.search.policy⟩ := by
    simp only [Settings.collection, chosen, StoreSettings.backend]
  refine ⟨_, built, rfl, fun _ _ => rfl, fun text world => ?_⟩
  dsimp only
  exact documents_embed settings.embedding.endpoint network text world

theorem search_in_memory_after_failures :
    let settings : Settings :=
      { Settings.default with
        store := .memory ⟨4, some 2⟩
        embedding := ⟨"http://127.0.0.1:9000", "m", none, none, 30⟩ }
    let answers : List (Option Http.Response) :=
      [some ⟨200, "\x7b\"data\":[\x7b\"embedding\":[0,0]\x7d]\x7d"⟩]
    let operations : List Operation := [.call (.push ⟨"a", "x", [], none⟩),
      .call (.pushBatch [⟨"b", "y", [], some [3, 4]⟩, ⟨"c", "z", [], some [1]⟩]),
      .add 2 [⟨"d", "w", [], some [7]⟩, ⟨"e", "v", [], none⟩],
      .load 1 [⟨"f", "u", [], some [5]⟩]]
    ∃ collection, settings.collection Http.Script.network = .ok collection ∧
      let after := collection.run operations (.start (.start (.ofAnswers answers)) ⟨0⟩)
      let answer := ((collection.searchByEmbedding [1, 0] ⟨none, 4, 0⟩).outcome after).1
      answer = .error (.similarity .zeroNorm) ∧
        ∀ cause, answer = .error (.similarity cause) → cause ≠ .nullVector ∧
          (some 2 = some ([1, 0] : Embedding).length → cause = .zeroNorm) := by
  intro settings answers operations
  obtain ⟨collection, built, inMemory⟩ :=
    @inMemory_of_settings _ settings ⟨4, some 2⟩ rfl Http.Script.network
  let world : World (Deployment Http.Script) := .start (.start (.ofAnswers answers)) ⟨0⟩
  have never := (@search_in_memory_fails_only_for_zeroNorm _ _ collection _ _ world inMemory
    operations rfl).1 [1, 0] ⟨none, 4, 0⟩ rfl
  refine ⟨collection, built, ?_, never.1⟩
  have faulty : rank collection.policy [1, 0] ((firstCopies
      (collection.run operations world).state.documents.documents).map Document.candidate) 0 4 =
      .error .zeroNorm := by
    cases built
    exact rank_abort_eq_error_iff.mpr (by decide +kernel)
  obtain ⟨after, fetched⟩ := @InMemory.fetched _ _ _ _ _ ⟨none, 4, 0⟩ inMemory rfl
    (collection.run operations world)
  rw [searchByEmbedding_outcome (by decide) fetched, faulty]

end Collection

end VectorSearch
