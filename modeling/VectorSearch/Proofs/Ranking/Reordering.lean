import Mathlib.Data.List.Forall2
import Mathlib.Data.List.Pairwise
import VectorSearch.Proofs.Ranking.Failure
import VectorSearch.Proofs.Ranking.Selection

namespace VectorSearch

open Number

/-- Two rankings of one pool agree up to ties. -/
structure AgreeUpToTies (pool left right : List Ranked) : Prop where
  scores : List.Forall₂ (fun a b => (a.score == b.score) = true) left right
  above : ∀ result ∈ pool, ∀ last ∈ left.getLast?, last.score < result.score →
    result ∈ left ∧ result ∈ right
  tieless : (pool.Pairwise fun a b => (a.score == b.score) = false) → left = right

section

variable {pool left right : List Ranked}

theorem sorted_falling (numbers : ∀ result ∈ pool, result.score.isNaN = false) :
    (pool.mergeSort Ranked.precedes).Pairwise fun before after => after.score ≤ before.score := by
  obtain ⟨sorted, results, -, falling⟩ := exists_sorted_positions numbers
  rw [← results]
  exact List.pairwise_map.mpr (falling.imp And.left)

theorem sorted_places_falling (numbers : ∀ result ∈ pool, result.score.isNaN = false) :
    ((pool.mergeSort Ranked.precedes).map Ranked.place).Pairwise fun p q => q ≤ p := by
  rw [List.pairwise_map]
  refine (sorted_falling numbers).imp_of_mem ?_
  intro before after beforeIn afterIn falls
  have beforeNumber := numbers before (List.mem_mergeSort.mp beforeIn)
  have afterNumber := numbers after (List.mem_mergeSort.mp afterIn)
  exact (Ranked.place_le_iff afterNumber beforeNumber).mpr falls

theorem sorted_places_eq (numbers : ∀ result ∈ left, result.score.isNaN = false)
    (reordered : left.Perm right) :
    (left.mergeSort Ranked.precedes).map Ranked.place =
      (right.mergeSort Ranked.precedes).map Ranked.place := by
  have others : ∀ result ∈ right, result.score.isNaN = false := fun result member =>
    numbers result (reordered.mem_iff.mpr member)
  have sorted : (left.mergeSort Ranked.precedes).Perm (right.mergeSort Ranked.precedes) :=
    (List.mergeSort_perm _ _).trans (reordered.trans (List.mergeSort_perm _ _).symm)
  exact List.Perm.eq_of_pairwise (fun p q _ _ below above => le_antisymm above below)
    (sorted_places_falling numbers) (sorted_places_falling others) (sorted.map Ranked.place)

theorem sorted_eq_of_tieless (numbers : ∀ result ∈ left, result.score.isNaN = false)
    (reordered : left.Perm right)
    (tieless : left.Pairwise fun a b => (a.score == b.score) = false) :
    left.mergeSort Ranked.precedes = right.mergeSort Ranked.precedes := by
  have others : ∀ result ∈ right, result.score.isNaN = false := fun result member =>
    numbers result (reordered.mem_iff.mpr member)
  have symmetric : Std.Symm fun a b : Ranked => (a.score == b.score) = false :=
    ⟨fun a b different => (doubleBeq_comm b.score a.score).trans different⟩
  refine List.Perm.eq_of_pairwise ?_ (sorted_falling numbers) (sorted_falling others)
    ((List.mergeSort_perm _ _).trans (reordered.trans (List.mergeSort_perm _ _).symm))
  intro a b aIn bIn below above
  have aMember : a ∈ left := List.mem_mergeSort.mp aIn
  have bMember : b ∈ left := reordered.mem_iff.mpr (List.mem_mergeSort.mp bIn)
  by_contra different
  have apart := tieless.forall aMember bMember different
  rw [doubleBeq_iff_le.mpr ⟨above, below⟩] at apart
  contradiction

theorem mem_taken_of_above {count : Nat} {result last : Ranked}
    (numbers : ∀ result ∈ pool, result.score.isNaN = false) (present : result ∈ pool)
    (isLast : last ∈ ((pool.mergeSort Ranked.precedes).take count).getLast?)
    (above : last.score < result.score) :
    result ∈ (pool.mergeSort Ranked.precedes).take count := by
  have falling := sorted_falling numbers
  have listed : result ∈ pool.mergeSort Ranked.precedes := List.mem_mergeSort.mpr present
  rw [← List.take_append_drop count (pool.mergeSort Ranked.precedes)] at listed falling
  rcases List.mem_append.mp listed with taken | dropped
  · exact taken
  · have notAbove := (List.pairwise_append.mp falling).2.2 last (List.mem_of_getLast? isLast)
      result dropped
    exact absurd notAbove (not_doubleLe_of_lt above)

theorem take_sorted_scores (numbers : ∀ result ∈ left, result.score.isNaN = false)
    (reordered : left.Perm right) (count : Nat) :
    List.Forall₂ (fun a b => (a.score == b.score) = true)
      ((left.mergeSort Ranked.precedes).take count)
      ((right.mergeSort Ranked.precedes).take count) := by
  have places := congrArg (List.take count) (sorted_places_eq numbers reordered)
  rw [← List.map_take, ← List.map_take, ← List.forall₂_eq_eq_eq, List.forall₂_map_left_iff,
    List.forall₂_map_right_iff, List.forall₂_iff_zip] at places
  refine List.forall₂_iff_zip.mpr ⟨places.1, ?_⟩
  intro a b paired
  obtain ⟨aTaken, bTaken⟩ := List.of_mem_zip paired
  have aNumber := numbers a (List.mem_mergeSort.mp (List.mem_of_mem_take aTaken))
  have bNumber := numbers b
    (reordered.mem_iff.mpr (List.mem_mergeSort.mp (List.mem_of_mem_take bTaken)))
  have same := places.2 paired
  exact doubleBeq_iff_le.mpr ⟨(Ranked.place_le_iff aNumber bNumber).mp (le_of_eq same),
    (Ranked.place_le_iff bNumber aNumber).mp (ge_of_eq same)⟩

theorem exists_last_of_forall₂ {related : α → β → Prop} {left : List α} {right : List β}
    (each : List.Forall₂ related left right) {last : α} (isLast : last ∈ left.getLast?) :
    ∃ other ∈ right.getLast?, related last other := by
  induction each with
  | nil => contradiction
  | cons first each ih =>
      rw [List.getLast?_cons] at isLast ⊢
      cases each with
      | nil =>
          cases isLast
          exact ⟨_, rfl, first⟩
      | cons second each => exact ih isLast

theorem take_sorted_agree (numbers : ∀ result ∈ left, result.score.isNaN = false)
    (reordered : left.Perm right) (count : Nat) :
    AgreeUpToTies left ((left.mergeSort Ranked.precedes).take count)
      ((right.mergeSort Ranked.precedes).take count) := by
  have scores := take_sorted_scores numbers reordered count
  have others : ∀ result ∈ right, result.score.isNaN = false := fun result member =>
    numbers result (reordered.mem_iff.mpr member)
  refine ⟨scores, ?_, fun tieless => ?_⟩
  · intro result present last isLast above
    refine ⟨mem_taken_of_above numbers present isLast above, ?_⟩
    obtain ⟨otherLast, isOtherLast, same⟩ := exists_last_of_forall₂ scores isLast
    exact mem_taken_of_above others (reordered.mem_iff.mp present) isOtherLast
      (doubleLt_of_beq_of_lt ((doubleBeq_comm _ _).trans same) above)
  · rw [sorted_eq_of_tieless numbers reordered tieless]

end

variable {policy : ScoreErrorPolicy} {query : Embedding} {threshold : Float}

theorem rank_isOk_iff {candidates : List Candidate} {topK : Nat} :
    (rank policy query candidates threshold topK).isOk = true ↔
      policy = .skip ∨ ∀ candidate ∈ candidates, candidate.isScorable query = true := by
  cases policy with
  | skip =>
      rw [rank_skip]
      exact ⟨fun _ => .inl rfl, fun _ => rfl⟩
  | abort =>
      have faultless : candidates.findSome? (·.fault? query) = none ↔
          ∀ candidate ∈ candidates, candidate.isScorable query = true := by
        simp only [List.findSome?_eq_none_iff, Candidate.fault?_eq_none_iff]
      rw [rank_abort, ← faultless]
      cases candidates.findSome? (·.fault? query) <;> simp [Except.isOk, Except.toBool]

theorem threshold_le_of_ranked {candidates : List Candidate} {topK : Nat} {ranked : List Ranked}
    (succeeded : rank policy query candidates threshold topK = .ok ranked) :
    ∀ result ∈ ranked, threshold ≤ result.score := by
  intro result member
  rw [rank_eq_take_sorted succeeded] at member
  exact threshold_le_of_survives (List.mem_mergeSort.mp (List.mem_of_mem_take member))

theorem rank_reordered (policy : ScoreErrorPolicy) (query : Embedding) (threshold : Float)
    (topK : Nat) {left right : List Candidate} (reordered : left.Perm right) :
    (rank policy query left threshold topK).isOk =
        (rank policy query right threshold topK).isOk ∧
      ∀ first second, rank policy query left threshold topK = .ok first →
        rank policy query right threshold topK = .ok second →
          AgreeUpToTies (survivors query threshold left) first second := by
  constructor
  · rw [Bool.eq_iff_iff, rank_isOk_iff, rank_isOk_iff]
    simp only [reordered.mem_iff]
  · intro first second firstRanked secondRanked
    rw [rank_eq_take_sorted firstRanked, rank_eq_take_sorted secondRanked]
    have numbers : ∀ result ∈ survivors query threshold left, result.score.isNaN = false :=
      fun result survives => (not_isNaN_of_le (threshold_le_of_survives survives)).2
    exact take_sorted_agree numbers (reordered.filterMap _) topK

end VectorSearch
