import VectorSearch.Proofs.Collection.Search
import VectorSearch.Proofs.Json.Reading
import VectorSearch.Proofs.Ranking.Reordering

namespace VectorSearch

open Number

/-- Two answers to a search of documents agree up to ties. -/
structure AnswersAgree (documents : List Document) (query : Embedding) (threshold : Float)
    (left right : List Hit) : Prop where
  scores : List.Forall₂ (fun a b => (a.score == b.score) = true) left right
  above : ∀ document ∈ documents, ∀ score,
    Embedding.cosine (some query) document.embedding = .ok score →
      ∀ last ∈ left.getLast?, last.score < score → ⟨document, score⟩ ∈ left ∧ ⟨document, score⟩ ∈ right
  tieless :
    ((survivors query threshold (documents.map Document.candidate)).Pairwise fun a b =>
        (a.score == b.score) = false) → left = right

section

variable {documents : List Document}

theorem firstCopies_of_nodup (distinct : (documents.map (·.id)).Nodup) :
    firstCopies documents = documents := by
  induction documents with
  | nil => rfl
  | cons document rest ih =>
      obtain ⟨fresh, restDistinct⟩ := List.nodup_cons.mp distinct
      rw [firstCopies, ih restDistinct, List.filter_eq_self.mpr]
      intro other present
      exact decide_eq_true fun same => fresh (List.mem_map.mpr ⟨other, present, same⟩)

theorem hit_eq_of_ranked_eq (distinct : (documents.map (·.id)).Nodup) {hit other : Hit}
    (present : hit.document ∈ documents) (otherPresent : other.document ∈ documents)
    (same : hit.ranked = other.ranked) : hit = other := by
  obtain ⟨document, score⟩ := hit
  obtain ⟨otherDocument, otherScore⟩ := other
  obtain ⟨named, scored⟩ := Ranked.mk.inj same
  have sameDocument : document = otherDocument :=
    List.inj_on_of_nodup_map distinct present otherPresent named
  exact congrArg₂ Hit.mk sameDocument scored

theorem hits_eq_of_ranked_eq (distinct : (documents.map (·.id)).Nodup) {left right : List Hit}
    (leftPresent : ∀ hit ∈ left, hit.document ∈ documents)
    (rightPresent : ∀ hit ∈ right, hit.document ∈ documents)
    (same : left.map Hit.ranked = right.map Hit.ranked) : left = right := by
  induction left generalizing right with
  | nil => exact (List.map_eq_nil_iff.mp same.symm).symm
  | cons hit rest ih =>
      cases right with
      | nil => contradiction
      | cons other others =>
          obtain ⟨first, later⟩ := List.cons.inj same
          obtain ⟨present, restPresent⟩ := List.forall_mem_cons.mp leftPresent
          obtain ⟨otherPresent, othersPresent⟩ := List.forall_mem_cons.mp rightPresent
          rw [hit_eq_of_ranked_eq distinct present otherPresent first,
            ih restPresent othersPresent later]

theorem hit_mem_of_ranked_mem (distinct : (documents.map (·.id)).Nodup) {hits : List Hit}
    (allPresent : ∀ hit ∈ hits, hit.document ∈ documents) {document : Document} {score : Float}
    (present : document ∈ documents) (ranked : ⟨document.id, score⟩ ∈ hits.map Hit.ranked) :
    ⟨document, score⟩ ∈ hits := by
  obtain ⟨hit, member, same⟩ := List.mem_map.mp ranked
  have found : hit = ⟨document, score⟩ :=
    hit_eq_of_ranked_eq distinct (allPresent hit member) present same
  exact found ▸ member

theorem mem_survivors {query : Embedding} {threshold score : Float} {document : Document}
    (present : document ∈ documents)
    (cosine : Embedding.cosine (some query) document.embedding = .ok score)
    (reached : threshold ≤ score) :
    ⟨document.id, score⟩ ∈ survivors query threshold (documents.map Document.candidate) :=
  survives_of_le (List.mem_map_of_mem present) cosine reached

theorem AgreeUpToTies.answersAgree (distinct : (documents.map (·.id)).Nodup) {query : Embedding}
    {threshold : Float} {left right : List Hit}
    (leftPresent : ∀ hit ∈ left, hit.document ∈ documents)
    (rightPresent : ∀ hit ∈ right, hit.document ∈ documents)
    (reached : ∀ hit ∈ left, threshold ≤ hit.score)
    (agree : AgreeUpToTies (survivors query threshold (documents.map Document.candidate))
      (left.map Hit.ranked) (right.map Hit.ranked)) :
    AnswersAgree documents query threshold left right := by
  refine ⟨?_, ?_, ?_⟩
  · have scores := agree.scores
    rwa [List.forall₂_map_left_iff, List.forall₂_map_right_iff] at scores
  · intro document present score cosine last isLast above
    have isLastRanked : last.ranked ∈ (left.map Hit.ranked).getLast? := by
      rw [List.getLast?_map, isLast]
      rfl
    have survives : ⟨document.id, score⟩ ∈
        survivors query threshold (documents.map Document.candidate) :=
      mem_survivors present cosine
        (doubleLe_trans (reached last (List.mem_of_getLast? isLast)) (doubleLe_of_lt above))
    obtain ⟨inLeft, inRight⟩ := agree.above _ survives _ isLastRanked above
    exact ⟨hit_mem_of_ranked_mem distinct leftPresent present inLeft,
      hit_mem_of_ranked_mem distinct rightPresent present inRight⟩
  · intro apart
    exact hits_eq_of_ranked_eq distinct leftPresent rightPresent (agree.tieless apart)

end

section

variable {collection : Collection σ} {documents : List Document} {limits : Limits}
  {world after : World σ}

/-- Where identifiers are distinct, a search answers the ranking of all documents. -/
theorem searchByEmbedding_ranked (query : Embedding) (atLeastOne : 1 ≤ limits.topK)
    (fetched : (collection.backend.fetch limits.filter).outcome world = (.ok documents, after))
    (distinct : (documents.map (·.id)).Nodup) :
    let answer := ((collection.searchByEmbedding query limits).outcome world).1
    let ranking := rank collection.policy query (documents.map Document.candidate)
      limits.threshold limits.topK
    answer.isOk = ranking.isOk ∧ ∀ hits, answer = .ok hits →
      ranking = .ok (hits.map Hit.ranked) ∧ ∀ hit ∈ hits, hit.document ∈ documents := by
  intro answer ranking
  have copies := firstCopies_of_nodup distinct
  have answered : answer = _ :=
    congrArg Prod.fst (searchByEmbedding_outcome atLeastOne fetched)
  rw [copies] at answered
  cases succeeded : ranking with
  | error reason =>
      simp only [ranking] at succeeded
      simp only [succeeded] at answered
      rw [answered]
      exact ⟨rfl, nofun⟩
  | ok ranked =>
      simp only [ranking] at succeeded
      simp only [succeeded] at answered
      rw [← copies] at succeeded
      obtain ⟨joined, found⟩ :=
        joinHits_complete (ranked_ids_nodup succeeded) (pool_holds_ranked succeeded)
      rw [answered]
      refine ⟨rfl, ?_⟩
      rintro hits ⟨⟩
      exact ⟨congrArg Except.ok joined.symm,
        fun hit member => List.mem_of_find?_eq_some (found hit member)⟩

end

variable {left : Collection σ} {right : Collection τ} {documents others : List Document}
  {query : Embedding} {limits : Limits} {world after : World σ} {otherWorld otherAfter : World τ}

/-- Searches of the same documents in two orders fail together. If they do not fail, they answer
with the same scores, place for place, and with the same documents above the last score; and if no
scores tie, with the same hits in the same order. -/
theorem searchByEmbedding_reordered (samePolicy : left.policy = right.policy)
    (atLeastOne : 1 ≤ limits.topK)
    (leftFetched : (left.backend.fetch limits.filter).outcome world = (.ok documents, after))
    (rightFetched :
      (right.backend.fetch limits.filter).outcome otherWorld = (.ok others, otherAfter))
    (distinct : (documents.map (·.id)).Nodup) (reordered : documents.Perm others) :
    let leftAnswer := ((left.searchByEmbedding query limits).outcome world).1
    let rightAnswer := ((right.searchByEmbedding query limits).outcome otherWorld).1
    leftAnswer.isOk = rightAnswer.isOk ∧
      ∀ leftHits rightHits, leftAnswer = .ok leftHits → rightAnswer = .ok rightHits →
        AnswersAgree documents query limits.threshold leftHits rightHits := by
  intro leftAnswer rightAnswer
  have otherDistinct : (others.map (·.id)).Nodup := (reordered.map _).nodup_iff.mp distinct
  obtain ⟨leftFails, leftRanked⟩ := searchByEmbedding_ranked query atLeastOne leftFetched distinct
  obtain ⟨rightFails, rightRanked⟩ :=
    searchByEmbedding_ranked query atLeastOne rightFetched otherDistinct
  obtain ⟨together, agree⟩ := rank_reordered left.policy query limits.threshold limits.topK
    (reordered.map Document.candidate)
  constructor
  · rw [leftFails, rightFails, ← samePolicy]
    exact together
  · intro leftHits rightHits leftAnswered rightAnswered
    obtain ⟨leftRanking, leftPresent⟩ := leftRanked leftHits leftAnswered
    obtain ⟨rightRanking, rightPresent⟩ := rightRanked rightHits rightAnswered
    rw [← samePolicy] at rightRanking
    apply (agree _ _ leftRanking rightRanking).answersAgree distinct leftPresent
    · intro hit member
      exact reordered.mem_iff.mpr (rightPresent hit member)
    · intro hit member
      exact threshold_le_of_ranked leftRanking hit.ranked (List.mem_map_of_mem member)

/-- Of two documents that tie for the second place, each order leaves out the one that it has last. -/
theorem searchByEmbedding_reordered_tied :
    let near : Document := ⟨"near", "", [], some [3, 4]⟩
    let straight : Document := ⟨"straight", "", [], some [1, 0]⟩
    let far : Document := ⟨"far", "", [], some [6, 8]⟩
    let collection (documents : List Document) : Collection Unit :=
      ⟨⟨"fixed", fun _ => pure (), fun _ => pure (), fun _ => pure documents⟩,
        ⟨fun _ => pure [1, 0]⟩, .abort⟩
    let answer (documents : List Document) :=
      (((collection documents).searchByEmbedding [1, 0] ⟨none, 2, 0⟩).outcome (.start () ⟨0⟩)).1
    ∃ leftHits rightHits, answer [near, straight, far] = .ok leftHits ∧
      answer [far, near, straight] = .ok rightHits ∧
      leftHits.map Hit.ranked = [⟨"straight", 1⟩, ⟨"near", 0.6⟩] ∧
      rightHits.map Hit.ranked = [⟨"straight", 1⟩, ⟨"far", 0.6⟩] ∧
      AnswersAgree [near, straight, far] [1, 0] 0 leftHits rightHits := by
  intro near straight far collection answer
  have fetched (documents : List Document) :
      ((collection documents).backend.fetch none).outcome (.start () ⟨0⟩) =
        (.ok documents, .start () ⟨0⟩) := rfl
  have distinct : ([near, straight, far].map (·.id)).Nodup := by decide
  have reordered : ([near, straight] ++ [far]).Perm ([far] ++ [near, straight]) :=
    List.perm_append_comm
  have better : Ranked.precedes ⟨"straight", 1⟩ ⟨"far", 0.6⟩ = true ∧
      Ranked.precedes ⟨"near", 0.6⟩ ⟨"straight", 1⟩ = false ∧
      Ranked.precedes ⟨"far", 0.6⟩ ⟨"straight", 1⟩ = false ∧
      Ranked.precedes ⟨"near", 0.6⟩ ⟨"far", 0.6⟩ = true ∧
      Ranked.precedes ⟨"far", 0.6⟩ ⟨"near", 0.6⟩ = true := by decide +kernel
  have leftPool : scored .abort [1, 0] 0 ([near, straight, far].map Document.candidate) =
      .ok [⟨"near", 0.6⟩, ⟨"straight", 1⟩, ⟨"far", 0.6⟩] := by decide +kernel
  have rightPool : scored .abort [1, 0] 0 ([far, near, straight].map Document.candidate) =
      .ok [⟨"far", 0.6⟩, ⟨"near", 0.6⟩, ⟨"straight", 1⟩] := by decide +kernel
  have leftRanking : rank .abort [1, 0] ([near, straight, far].map Document.candidate) 0 2 =
      .ok [⟨"straight", 1⟩, ⟨"near", 0.6⟩] := by
    simp only [rank, leftPool]
    simp [List.mergeSort, List.MergeSort.Internal.splitInTwo, better]
  have rightRanking : rank .abort [1, 0] ([far, near, straight].map Document.candidate) 0 2 =
      .ok [⟨"straight", 1⟩, ⟨"far", 0.6⟩] := by
    simp only [rank, rightPool]
    simp [List.mergeSort, List.MergeSort.Internal.splitInTwo, better]
  obtain ⟨leftOk, leftRanked⟩ := @searchByEmbedding_ranked _ (collection [near, straight, far]) _
    ⟨none, 2, 0⟩ _ _ [1, 0] (by decide) (fetched _) distinct
  obtain ⟨rightOk, rightRanked⟩ := @searchByEmbedding_ranked _ (collection [far, near, straight]) _
    ⟨none, 2, 0⟩ _ _ [1, 0] (by decide) (fetched _) ((reordered.map _).nodup_iff.mp distinct)
  obtain ⟨leftHits, leftAnswered⟩ :=
    Json.isOk_iff_exists.mp (leftOk.trans (congrArg Except.isOk leftRanking))
  obtain ⟨rightHits, rightAnswered⟩ :=
    Json.isOk_iff_exists.mp (rightOk.trans (congrArg Except.isOk rightRanking))
  refine ⟨leftHits, rightHits, leftAnswered, rightAnswered, ?_, ?_, ?_⟩
  · exact Except.ok.inj ((leftRanked leftHits leftAnswered).1.symm.trans leftRanking)
  · exact Except.ok.inj ((rightRanked rightHits rightAnswered).1.symm.trans rightRanking)
  · exact (@searchByEmbedding_reordered _ _ (collection [near, straight, far])
      (collection [far, near, straight]) _ _ [1, 0] ⟨none, 2, 0⟩ _ _ _ _ rfl (by decide)
      (fetched _) (fetched _) distinct reordered).2 leftHits rightHits leftAnswered rightAnswered

end VectorSearch
