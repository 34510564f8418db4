import VectorSearch.Collection
import VectorSearch.Proofs.Activity
import VectorSearch.Proofs.Ranking.Selection

namespace VectorSearch

/-! What a search by vector answers.

Fetched documents are taken apart into candidates and bodies, the candidates are ranked, and the
results are joined with the bodies again, each of which is used up. Of several documents with one
identifier only the first counts, so the identifiers of a ranking are distinct, every one of them
still has its body when its turn comes, and the answer is the ranking of the first copies.
-/

/-- The first document of each identifier, in order. -/
def firstCopies : List Document → List Document
  | [] => []
  | document :: rest => document :: (firstCopies rest).filter (·.id ≠ document.id)

theorem find?_firstCopies (documents : List Document) (id : String) :
    (firstCopies documents).find? (·.id = id) = documents.find? (·.id = id) := by
  induction documents with
  | nil => rfl
  | cons document rest ih =>
      rw [firstCopies, List.find?_cons, List.find?_cons]
      by_cases same : document.id = id
      · simp [same]
      · simp only [same, decide_false]
        rw [← ih, List.find?_filter]
        congr 1
        funext other
        by_cases found : other.id = id
        · subst found
          simp [Ne.symm same]
        · simp [found]

theorem mem_of_mem_firstCopies {documents : List Document} {document : Document}
    (first : document ∈ firstCopies documents) : document ∈ documents := by
  induction documents with
  | nil => exact first
  | cons head rest ih =>
      rcases List.mem_cons.mp first with rfl | later
      · exact .head _
      · exact .tail _ (ih (List.mem_filter.mp later).1)

theorem firstCopies_nodup (documents : List Document) :
    ((firstCopies documents).map (·.id)).Nodup := by
  induction documents with
  | nil => exact .nil
  | cons document rest ih =>
      rw [firstCopies, List.map_cons, List.nodup_cons]
      constructor
      · simp
      · exact ih.sublist ((List.filter_sublist).map _)

namespace Pool

/-- A document whose embedding is kept elsewhere. -/
def body (document : Document) : Document :=
  { document with embedding := none }

theorem collect_candidates (bodies : Std.HashMap String Document) (documents : List Document) :
    (collect bodies documents).candidates =
      ((firstCopies documents).filter fun document => !bodies.contains document.id).map
        Document.candidate := by
  induction documents generalizing bodies with
  | nil => rfl
  | cons document rest ih =>
      by_cases held : bodies.contains document.id = true
      · rw [collect, if_pos held, ih, firstCopies, List.filter_cons_of_neg (by simp [held]),
          List.filter_filter]
        congr 1
        refine List.filter_congr fun other _ => ?_
        by_cases same : other.id = document.id <;> simp [same, held]
      · simp only [collect, if_neg held, ih]
        rw [firstCopies, List.filter_cons_of_pos (by simp [held]), List.filter_filter,
          List.map_cons]
        congr 2
        refine List.filter_congr fun other _ => ?_
        by_cases same : document.id = other.id
        · simp [Std.HashMap.contains_insert, same]
        · simp [Std.HashMap.contains_insert, same, Ne.symm same]

theorem collect_getElem? (bodies : Std.HashMap String Document) (documents : List Document)
    (id : String) :
    (collect bodies documents).bodies[id]? =
      bodies[id]?.or ((documents.find? (·.id = id)).map body) := by
  induction documents generalizing bodies with
  | nil => simp [collect]
  | cons document rest ih =>
      by_cases held : bodies.contains document.id = true
      · rw [collect, if_pos held, ih, List.find?_cons]
        by_cases same : document.id = id
        · subst same
          rw [Std.HashMap.contains_eq_isSome_getElem?] at held
          rw [Option.or_of_isSome held, Option.or_of_isSome held]
        · simp [same]
      · simp only [collect, if_neg held, ih, Std.HashMap.getElem?_insert, List.find?_cons]
        by_cases same : document.id = id
        · subst same
          rw [Std.HashMap.contains_eq_isSome_getElem?, Option.not_isSome_iff_eq_none] at held
          simp [held, body]
        · simp [same]

theorem ofDocuments_candidates (documents : List Document) :
    (ofDocuments documents).candidates = (firstCopies documents).map Document.candidate := by
  simp [ofDocuments, collect_candidates]

theorem ofDocuments_bodies (documents : List Document) (id : String) :
    (ofDocuments documents).bodies[id]? = (documents.find? (·.id = id)).map body := by
  simp [ofDocuments, collect_getElem?]

theorem ofDocuments_embeddings {documents : List Document} {document : Document}
    (found : documents.find? (·.id = document.id) = some document) :
    (ofDocuments documents).embeddings[document.id]? = some document.embedding := by
  rw [embeddings, ofDocuments_candidates, List.map_map]
  have distinct : (firstCopies documents).Pairwise fun a b => a.id ≠ b.id :=
    List.pairwise_map.mp (firstCopies_nodup documents)
  apply Std.HashMap.getElem?_ofList_of_mem (beq_self_eq_true document.id)
  · rw [List.pairwise_map]
    exact distinct.imp fun different => beq_eq_false_iff_ne.mpr different
  · rw [← find?_firstCopies] at found
    exact List.mem_map_of_mem (List.mem_of_find?_eq_some found)

end Pool

/-- The identifier and the score of a hit. -/
def Hit.ranked (hit : Hit) : Ranked :=
  ⟨hit.document.id, hit.score⟩

/-- Joining a ranking of distinct identifiers, each with a body and an embedding, loses nothing. -/
theorem joinHits_complete {documents : List Document} {bodies : Std.HashMap String Document}
    {embeddings : Std.HashMap String (Option Embedding)} {ranked : List Ranked}
    (distinct : (ranked.map Ranked.id).Nodup)
    (held : ∀ result ∈ ranked, ∃ document, documents.find? (·.id = result.id) = some document ∧
      bodies[result.id]? = some (Pool.body document) ∧
      embeddings[result.id]? = some document.embedding) :
    (joinHits bodies embeddings ranked).map Hit.ranked = ranked ∧
      ∀ hit ∈ joinHits bodies embeddings ranked,
        documents.find? (·.id = hit.document.id) = some hit.document := by
  induction ranked generalizing bodies embeddings with
  | nil => simp [joinHits]
  | cons result rest ih =>
      obtain ⟨document, found, bodyHeld, embeddingHeld⟩ := held result (by simp)
      obtain ⟨fresh, restDistinct⟩ := List.nodup_cons.mp distinct
      have named : document.id = result.id := by simpa using List.find?_some found
      -- What the first result used up belongs to none of the others.
      have restHeld : ∀ other ∈ rest, ∃ document,
          documents.find? (·.id = other.id) = some document ∧
          (bodies.erase result.id)[other.id]? = some (Pool.body document) ∧
          (embeddings.erase result.id)[other.id]? = some document.embedding := by
        intro other member
        have different : result.id ≠ other.id := fun same =>
          fresh (same ▸ List.mem_map_of_mem member)
        simpa [Std.HashMap.getElem?_erase, different] using held other (by simp [member])
      obtain ⟨restRanked, restFound⟩ := ih restDistinct restHeld
      have joined : joinHits bodies embeddings (result :: rest) =
          ⟨document, result.score⟩ ::
            joinHits (bodies.erase result.id) (embeddings.erase result.id) rest := by
        simp only [joinHits, bodyHeld, embeddingHeld]
        rfl
      rw [joined]
      constructor
      · rw [List.map_cons, restRanked, Hit.ranked, named]
      · intro hit member
        rcases List.mem_cons.mp member with rfl | later
        · rw [← named] at found
          exact found
        · exact restFound hit later

variable {documents : List Document} {query : Embedding} {ranked : List Ranked}

theorem ranked_ids_nodup {policy : ScoreErrorPolicy} {threshold : Float} {topK : Nat}
    (succeeded : rank policy query ((firstCopies documents).map Document.candidate) threshold topK =
      .ok ranked) :
    (ranked.map Ranked.id).Nodup := by
  obtain ⟨kept, permuted, sublist⟩ := rank_ids_subperm succeeded
  rw [List.map_map] at sublist
  exact permuted.nodup_iff.mp ((firstCopies_nodup documents).sublist sublist)

/-- Each result of a ranking of the first copies finds its body and its embedding. -/
theorem pool_holds_ranked {policy : ScoreErrorPolicy} {threshold : Float} {topK : Nat}
    (succeeded : rank policy query ((firstCopies documents).map Document.candidate) threshold topK =
      .ok ranked) :
    ∀ result ∈ ranked, ∃ document, documents.find? (·.id = result.id) = some document ∧
      (Pool.ofDocuments documents).bodies[result.id]? = some (Pool.body document) ∧
      (Pool.ofDocuments documents).embeddings[result.id]? = some document.embedding := by
  intro result member
  have ids := (rank_ids_subperm succeeded).subset
  rw [List.map_map] at ids
  obtain ⟨copy, present, same⟩ := List.mem_map.mp (ids (List.mem_map_of_mem member))
  have some : (documents.find? (·.id = result.id)).isSome := by
    rw [← find?_firstCopies, List.find?_isSome]
    exact ⟨copy, present, decide_eq_true same⟩
  obtain ⟨document, found⟩ := Option.isSome_iff_exists.mp some
  have named : document.id = result.id := by simpa using List.find?_some found
  refine ⟨document, found, ?_, ?_⟩
  · rw [Pool.ofDocuments_bodies, found, Option.map_some]
  · rw [← named] at found ⊢
    exact Pool.ofDocuments_embeddings found

variable {collection : Collection σ} {limits : Limits} {world after : World σ}

theorem searchByEmbedding_outcome (atLeastOne : 1 ≤ limits.topK)
    (fetched : (collection.backend.fetch limits.filter).outcome world = (.ok documents, after)) :
    (collection.searchByEmbedding query limits).outcome world =
      match rank collection.policy query ((firstCopies documents).map Document.candidate)
        limits.threshold limits.topK with
      | .error reason => (.error (.similarity reason), after)
      | .ok ranked =>
          let pool := Pool.ofDocuments documents
          (.ok (joinHits pool.bodies pool.embeddings ranked),
            { after with
              measured :=
                .ranking (firstCopies documents).length ranked.length :: after.measured }) := by
  have positive : limits.topK ≠ 0 := by omega
  simp only [Collection.searchByEmbedding, checkTopK, if_neg positive, Act.outcome_bind,
    Act.outcome_ofExcept, fetched, Pool.ofDocuments_candidates, List.length_map]
  cases rank collection.policy query ((firstCopies documents).map Document.candidate)
    limits.threshold limits.topK <;> simp [Except.map]

/-- A search of a single document that is returned. -/
theorem search_of_single {request : SearchRequest} {vector : Embedding} {document : Document}
    {score : Float} {between : World σ}
    (atLeastOne : 1 ≤ request.limits.topK)
    (embedded : (collection.embedder.embed request.query).outcome world = (.ok vector, between))
    (fetched : (collection.backend.fetch request.limits.filter).outcome between =
      (.ok [document], after))
    (ranked : rank collection.policy vector [document.candidate] request.limits.threshold
      request.limits.topK = .ok [⟨document.id, score⟩]) :
    (collection.search request).outcome world =
      (.ok [⟨document, score⟩], { after with measured := .ranking 1 1 :: after.measured }) := by
  have asked : checkTopK request.limits.topK = .ok () := if_neg (Nat.ne_of_gt atLeastOne)
  have first : firstCopies [document] = [document] := rfl
  simp only [Collection.search, Collection.embed, asked, Act.outcome_bind, Act.outcome_ofExcept,
    Act.outcome_mapError, embedded]
  simp only [Except.mapError, searchByEmbedding_outcome atLeastOne fetched, first,
    List.map_singleton, ranked]
  simp [Pool.ofDocuments, Pool.collect, Pool.embeddings, joinHits, Document.candidate]

/-- A search by vector fails as the ranking of the first copies fails. Otherwise it returns that
ranking, each identifier with the first document that was fetched under it, field for field. -/
theorem searchByEmbedding_ranks_firstCopies (atLeastOne : 1 ≤ limits.topK)
    (fetched : (collection.backend.fetch limits.filter).outcome world = (.ok documents, after)) :
    match rank collection.policy query ((firstCopies documents).map Document.candidate)
      limits.threshold limits.topK with
    | .error reason =>
        ((collection.searchByEmbedding query limits).outcome world).1 = .error (.similarity reason)
    | .ok ranked => ∃ hits,
        ((collection.searchByEmbedding query limits).outcome world).1 = .ok hits ∧
          hits.map Hit.ranked = ranked ∧
          (∀ hit ∈ hits, documents.find? (·.id = hit.document.id) = some hit.document) ∧
          (hits.map (·.document.id)).Nodup := by
  rw [searchByEmbedding_outcome atLeastOne fetched]
  cases succeeded : rank collection.policy query ((firstCopies documents).map Document.candidate)
    limits.threshold limits.topK with
  | error reason => rfl
  | ok ranked =>
      have distinct := ranked_ids_nodup succeeded
      obtain ⟨joined, found⟩ := joinHits_complete distinct (pool_holds_ranked succeeded)
      refine ⟨_, rfl, joined, found, ?_⟩
      rw [← joined, List.map_map] at distinct
      exact distinct

/-- Later copies count for nothing, be they better or without a score. -/
theorem searchByEmbedding_with_copies :
    let documents : List Document := [⟨"slanted", "first", [], some [3, 4]⟩,
      ⟨"straight", "only", [], some [1, 0]⟩, ⟨"slanted", "better", [], some [1, 0]⟩,
      ⟨"slanted", "unscorable", [], none⟩]
    let backend : Backend Unit :=
      ⟨"fixed", fun _ => pure (), fun _ => pure (), fun _ => pure documents⟩
    let collection : Collection Unit := ⟨backend, ⟨fun _ => pure [1, 0]⟩, .abort⟩
    let limits : Limits := ⟨none, 5, 0⟩
    let world : World Unit := .start () ⟨0⟩
    ∃ hits, ((collection.searchByEmbedding [1, 0] limits).outcome world).1 = .ok hits ∧
      hits.map Hit.ranked = [⟨"straight", 1⟩, ⟨"slanted", 0.6⟩] ∧
      (∀ hit ∈ hits, documents.find? (·.id = hit.document.id) = some hit.document) ∧
      (hits.map (·.document.id)).Nodup := by
  intro documents backend collection limits world
  let candidates := (firstCopies documents).map Document.candidate
  have pool : scored .abort [1, 0] 0 candidates =
      .ok [⟨"slanted", 0.6⟩, ⟨"straight", 1⟩] := by decide +kernel
  have worse : Ranked.precedes ⟨"slanted", 0.6⟩ ⟨"straight", 1⟩ = false := by decide +kernel
  have succeeded : rank .abort [1, 0] candidates 0 5 =
      .ok [⟨"straight", 1⟩, ⟨"slanted", 0.6⟩] := by
    simp [rank, pool, List.mergeSort, List.MergeSort.Internal.splitInTwo, worse]
  have fetched : (collection.backend.fetch limits.filter).outcome world = (.ok documents, world) :=
    rfl
  have answered := @searchByEmbedding_ranks_firstCopies _ documents [1, 0] collection limits world
    world (by decide) fetched
  rw [succeeded] at answered
  exact answered

end VectorSearch
