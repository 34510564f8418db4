import Mathlib.Data.List.Nodup
import Mathlib.Data.List.Perm.Subperm
import VectorSearch.Proofs.Number.Order
import VectorSearch.Proofs.Ranking.Scoring

namespace VectorSearch

open Number

/-! What a ranking selects.

A ranking that succeeds sorts the candidates that reach the threshold by falling score, equal
scores in the order of the candidates, and keeps a prefix. Scores that reach a threshold are
numbers, so the sort is one by a linear order although doubles are not ordered linearly.
-/

variable {policy : ScoreErrorPolicy} {query : Embedding} {threshold : Float}

theorem rank_eq_take_sorted {candidates : List Candidate} {topK : Nat} {ranked : List Ranked}
    (succeeded : rank policy query candidates threshold topK = .ok ranked) :
    ranked = ((survivors query threshold candidates).mergeSort Ranked.precedes).take topK := by
  cases results : scored policy query threshold candidates with
  | error reason => simp [rank, results] at succeeded
  | ok reached =>
      have sorted : (reached.mergeSort Ranked.precedes).take topK = ranked := by
        simpa [rank, results] using succeeded
      rw [← sorted, scored_eq_survivors results]

theorem survivors_ids_sublist (candidates : List Candidate) :
    ((survivors query threshold candidates).map Ranked.id).Sublist
      (candidates.map Candidate.id) := by
  induction candidates with
  | nil => exact .slnil
  | cons candidate rest ih =>
      cases cosine : Embedding.cosine (some query) candidate.embedding with
      | error reason =>
          rw [survivors_cons_error cosine]
          exact ih.cons candidate.id
      | ok score =>
          rw [survivors_cons_ok cosine]
          split
          next reached => exact ih.cons_cons candidate.id
          next below => exact ih.cons candidate.id

/-- A ranking returns identifiers of its candidates, each no more often than it was given. -/
theorem rank_ids_subperm {candidates : List Candidate} {topK : Nat} {ranked : List Ranked}
    (succeeded : rank policy query candidates threshold topK = .ok ranked) :
    (ranked.map Ranked.id).Subperm (candidates.map Candidate.id) := by
  rw [rank_eq_take_sorted succeeded]
  let pool := survivors query threshold candidates
  have taken : (((pool.mergeSort Ranked.precedes).take topK).map Ranked.id).Subperm
      ((pool.mergeSort Ranked.precedes).map Ranked.id) :=
    ((List.take_sublist _ _).map _).subperm
  have sorted := (List.mergeSort_perm pool Ranked.precedes).map Ranked.id
  exact (taken.trans sorted.subperm).trans (survivors_ids_sublist candidates).subperm

/-- Where a result stands by its score. What is not a number stands with zero; no ranking meets
one. -/
def Ranked.place (result : Ranked) : Int ×ₗ Int ×ₗ Int :=
  (Number.place result.score).getD (toLex (0, toLex (0, 0)))

theorem Ranked.place_le_iff {a b : Ranked} (aNumber : a.score.isNaN = false)
    (bNumber : b.score.isNaN = false) : a.place ≤ b.place ↔ a.score ≤ b.score := by
  obtain ⟨p, aPlace⟩ := exists_place aNumber
  obtain ⟨q, bPlace⟩ := exists_place bNumber
  simp [doubleLe_iff, place, aPlace, bPlace]

theorem Ranked.precedes_iff {a b : Ranked} (aNumber : a.score.isNaN = false)
    (bNumber : b.score.isNaN = false) : a.precedes b = true ↔ b.score ≤ a.score := by
  unfold precedes compareScores
  by_cases below : b.score ≤ a.score
  · by_cases above : a.score ≤ b.score <;> simp [below, above]
  · have above := (doubleLe_total aNumber bNumber).resolve_right below
    simp [below, above]

/-- The order of `Ranked.precedes` on numbers, as one that is total on all results. -/
def Ranked.standsBefore (a b : Ranked) : Bool :=
  decide (b.place ≤ a.place)

theorem Ranked.standsBefore_trans (a b c : Ranked) (first : a.standsBefore b)
    (second : b.standsBefore c) : a.standsBefore c :=
  decide_eq_true (le_trans (of_decide_eq_true second) (of_decide_eq_true first))

theorem Ranked.standsBefore_total (a b : Ranked) : a.standsBefore b || b.standsBefore a := by
  simpa [standsBefore] using le_total b.place a.place

theorem mergeSort_congr {test other : α → α → Bool} {items : List α}
    (agree : ∀ a ∈ items, ∀ b ∈ items, test a b = other a b) :
    items.mergeSort test = items.mergeSort other := by
  simpa using @List.map_mergeSort _ _ test other id items agree

theorem mergeSort_precedes_eq {pool : List Ranked}
    (numbers : ∀ result ∈ pool, result.score.isNaN = false) :
    pool.mergeSort Ranked.precedes = pool.mergeSort Ranked.standsBefore := by
  apply mergeSort_congr
  intro a aIn b bIn
  rw [Bool.eq_iff_iff, Ranked.precedes_iff (numbers a aIn) (numbers b bIn)]
  simp [Ranked.standsBefore, Ranked.place_le_iff (numbers b bIn) (numbers a aIn)]

/-- Sorting a pool of numbers with their positions: scores fall, and positions rise where scores
are equal. -/
theorem exists_sorted_positions {pool : List Ranked}
    (numbers : ∀ result ∈ pool, result.score.isNaN = false) :
    ∃ sorted : List (Ranked × Nat), sorted.map (·.1) = pool.mergeSort Ranked.precedes ∧
      sorted.Perm pool.zipIdx ∧
      sorted.Pairwise fun before after => after.1.score ≤ before.1.score ∧
        (before.1.score ≤ after.1.score → before.2 ≤ after.2) := by
  refine ⟨pool.zipIdx.mergeSort (List.zipIdxLE Ranked.standsBefore), ?_, List.mergeSort_perm _ _, ?_⟩
  · rw [List.mergeSort_zipIdx, mergeSort_precedes_eq numbers]
  · have sorted := List.pairwise_mergeSort (List.zipIdxLE_trans Ranked.standsBefore_trans)
      (List.zipIdxLE_total Ranked.standsBefore_total) pool.zipIdx
    refine sorted.imp_of_mem ?_
    intro before after beforeIn afterIn placed
    have beforeNumber :=
      numbers before.1 (List.fst_mem_of_mem_zipIdx (List.mem_mergeSort.mp beforeIn))
    have afterNumber :=
      numbers after.1 (List.fst_mem_of_mem_zipIdx (List.mem_mergeSort.mp afterIn))
    simp only [← Ranked.place_le_iff beforeNumber afterNumber,
      ← Ranked.place_le_iff afterNumber beforeNumber]
    by_cases falls : after.1.place ≤ before.1.place <;>
      by_cases rises : before.1.place ≤ after.1.place <;>
      simp_all [List.zipIdxLE, Ranked.standsBefore]

/-- The results at given positions of a pool are the best of it, as many as are asked for and
there are, the better ones first and equal ones in the order of the pool. -/
structure Selects (pool : List Ranked) (count : Nat) (positions : List Nat)
    (ranked : List Ranked) : Prop where
  length : ranked.length = min count pool.length
  distinct : positions.Nodup
  entries : positions.map (pool[·]?) = ranked.map some
  ordered : ranked.Pairwise fun before after => after.score ≤ before.score
  stable : positions.Pairwise fun p q =>
    ∀ before ∈ pool[p]?, ∀ after ∈ pool[q]?, (before.score == after.score) = true → p < q
  cut : ∀ p, ∀ leftOut ∈ pool[p]?, p ∉ positions →
    ∀ last ∈ ranked.getLast?, leftOut.score ≤ last.score
  ties : ∀ p, ∀ leftOut ∈ pool[p]?, p ∉ positions →
    ∀ q ∈ positions, ∀ kept ∈ pool[q]?, (kept.score == leftOut.score) = true → q < p

theorem selects_take_sorted {pool : List Ranked}
    (numbers : ∀ result ∈ pool, result.score.isNaN = false) (count : Nat) :
    ∃ positions, Selects pool count positions ((pool.mergeSort Ranked.precedes).take count) := by
  obtain ⟨sorted, results, permuted, falling⟩ := exists_sorted_positions numbers
  have found : ∀ entry ∈ sorted, pool[entry.2]? = some entry.1 := fun entry member =>
    List.mem_zipIdx_iff_getElem?.mp (permuted.mem_iff.mp member)
  have taken : (pool.mergeSort Ranked.precedes).take count = (sorted.take count).map (·.1) := by
    rw [← results, List.map_take]
  rw [taken]
  have fallingTaken := falling.sublist (List.take_sublist count sorted)
  have foundTaken : ∀ entry ∈ sorted.take count, pool[entry.2]? = some entry.1 :=
    fun entry member => found entry (List.mem_of_mem_take member)
  -- An entry that is not taken is dropped, and the sort puts it after all that are taken.
  have dropped : ∀ p, ∀ leftOut ∈ pool[p]?, p ∉ (sorted.take count).map (·.2) →
      ∀ entry ∈ sorted.take count, leftOut.score ≤ entry.1.score ∧
        (entry.1.score ≤ leftOut.score → entry.2 ≤ p) := by
    intro p leftOut present absent entry member
    have listed : (leftOut, p) ∈ sorted :=
      permuted.mem_iff.mpr (List.mk_mem_zipIdx_iff_getElem?.mpr present)
    rw [← List.take_append_drop count sorted] at listed falling
    rcases List.mem_append.mp listed with inTaken | inDropped
    · exact absurd (List.mem_map_of_mem inTaken) absent
    · exact (List.pairwise_append.mp falling).2.2 entry member (leftOut, p) inDropped
  have distinct : ((sorted.take count).map (·.2)).Nodup := by
    have unsorted : (pool.zipIdx.map (·.2)).Nodup := by
      simpa using List.nodup_range'
    have all : (sorted.map (·.2)).Nodup := (permuted.map _).nodup_iff.mpr unsorted
    exact all.sublist ((List.take_sublist count sorted).map _)
  refine ⟨(sorted.take count).map (·.2), ?_, distinct, ?_, ?_, ?_, ?_, ?_⟩
  · have size := permuted.length_eq
    simp only [List.length_zipIdx] at size
    simp [size]
  · rw [List.map_map, List.map_map]
    exact List.map_congr_left foundTaken
  · exact List.pairwise_map.mpr (fallingTaken.imp And.left)
  · refine List.pairwise_map.mpr (((List.pairwise_map.mp distinct).and fallingTaken).imp_of_mem ?_)
    intro before after beforeIn afterIn placed a aPresent b bPresent equal
    have aSame : before.1 = a := Option.some.inj ((foundTaken before beforeIn).symm.trans aPresent)
    have bSame : after.1 = b := Option.some.inj ((foundTaken after afterIn).symm.trans bPresent)
    subst aSame bSame
    have notAbove := placed.2.2 (doubleBeq_iff_le.mp equal).1
    exact Nat.lt_of_le_of_ne notAbove placed.1
  · intro p leftOut present absent last isLast
    obtain ⟨entry, member, rfl⟩ := List.mem_map.mp (List.mem_of_getLast? isLast)
    exact (dropped p leftOut present absent entry member).1
  · intro p leftOut present absent q kept result keptPresent equal
    obtain ⟨entry, member, rfl⟩ := List.mem_map.mp kept
    have same : entry.1 = result :=
      Option.some.inj ((foundTaken entry member).symm.trans keptPresent)
    subst same
    have notAbove := (dropped p leftOut present absent entry member).2 (doubleBeq_iff_le.mp equal).1
    exact Nat.lt_of_le_of_ne notAbove fun same => absent (same ▸ kept)

/-- A ranking that succeeds selects the best of the candidates that reach the threshold, all of
which have numbers for scores. -/
theorem rank_selects {candidates : List Candidate} {topK : Nat} {ranked : List Ranked}
    (succeeded : rank policy query candidates threshold topK = .ok ranked) :
    (∃ positions, Selects (survivors query threshold candidates) topK positions ranked) ∧
      ∀ result ∈ survivors query threshold candidates,
        result.score.isNaN = false ∧ threshold.isNaN = false := by
  have numbers : ∀ result ∈ survivors query threshold candidates,
      result.score.isNaN = false ∧ threshold.isNaN = false := fun result survives =>
    (not_isNaN_of_le (threshold_le_of_survives survives)).symm
  refine ⟨?_, numbers⟩
  rw [rank_eq_take_sorted succeeded]
  exact selects_take_sorted (fun result survives => (numbers result survives).1) topK

/-- Of three survivors the two that tie for the best are kept, in their order. -/
theorem rank_selects_tied :
    let candidates : List Candidate := [⟨"slanted", some [3, 4]⟩, ⟨"long", some [2, 0]⟩,
      ⟨"missing", none⟩, ⟨"short", some [1, 0]⟩, ⟨"opposite", some [-1, 0]⟩]
    let ranked : List Ranked := [⟨"long", 1⟩, ⟨"short", 1⟩]
    rank .skip [1, 0] candidates 0 2 = .ok ranked ∧
      survivors [1, 0] 0 candidates = [⟨"slanted", 0.6⟩, ⟨"long", 1⟩, ⟨"short", 1⟩] ∧
      (∃ positions, Selects (survivors [1, 0] 0 candidates) 2 positions ranked) ∧
      ∀ result ∈ survivors [1, 0] 0 candidates,
        result.score.isNaN = false ∧ (0 : Float).isNaN = false := by
  intro candidates ranked
  have pool : scored .skip [1, 0] 0 candidates =
      .ok [⟨"slanted", 0.6⟩, ⟨"long", 1⟩, ⟨"short", 1⟩] := by decide +kernel
  have worse : Ranked.precedes ⟨"slanted", 0.6⟩ ⟨"long", 1⟩ = false ∧
      Ranked.precedes ⟨"slanted", 0.6⟩ ⟨"short", 1⟩ = false := by decide +kernel
  have tied : Ranked.precedes ⟨"long", 1⟩ ⟨"short", 1⟩ = true := by decide +kernel
  have succeeded : rank .skip [1, 0] candidates 0 2 = .ok ranked := by
    simp [rank, pool, List.mergeSort, List.MergeSort.Internal.splitInTwo, worse, tied, ranked]
  exact ⟨succeeded, (scored_eq_survivors pool).symm, rank_selects succeeded⟩

end VectorSearch
