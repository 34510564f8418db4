import VectorSearch.Proofs.Ranking.Selection

namespace VectorSearch

open Number

/-! How the scores of a ranking compare.

A double that is not a number compares with nothing, and sums that overflow lead to such scores. The
test against the threshold keeps them out. So any two scores that are sorted compare, as in a linear
order, and it does not matter what would be done with scores that do not.
-/

/-- Doubles compare as their places do; what is not a number has none. -/
theorem compareScores_eq (x y : Float) :
    compareScores x y = (place x).bind fun p => (place y).map (compare p) := by
  unfold compareScores
  cases placeX : place x with
  | none => simp [doubleLe_iff, placeX]
  | some p =>
      cases placeY : place y with
      | none => simp [doubleLe_iff, placeX, placeY]
      | some q =>
          rcases lt_trichotomy p q with below | rfl | above
          · simp [doubleLe_iff, placeX, placeY, below.le, below.not_ge,
              compare_lt_iff_lt.mpr below]
          · simp [doubleLe_iff, placeX, placeY]
          · simp [doubleLe_iff, placeX, placeY, above.le, above.not_ge,
              compare_gt_iff_gt.mpr above]

namespace Ranked

/-- How a sort compares two results: the better score comes first, and scores that do not compare
count as equal. -/
def order (a b : Ranked) : Ordering :=
  (compareScores b.score a.score).getD .eq

theorem precedes_eq (a b : Ranked) : a.precedes b = (a.order b).isLE :=
  rfl

theorem compareScores_place {a b : Ranked} (aNumber : a.score.isNaN = false)
    (bNumber : b.score.isNaN = false) :
    compareScores a.score b.score = some (compare a.place b.place) := by
  obtain ⟨p, aPlace⟩ := exists_place aNumber
  obtain ⟨q, bPlace⟩ := exists_place bNumber
  simp [compareScores_eq, place, aPlace, bPlace]

theorem order_eq {a b : Ranked} (aNumber : a.score.isNaN = false)
    (bNumber : b.score.isNaN = false) : a.order b = compare b.place a.place := by
  rw [order, compareScores_place bNumber aNumber, Option.getD_some]

end Ranked

/-- Results that can be sorted: any two of them compare, the comparison is oriented and transitive,
and the sort comes to the same whatever stands in for scores that do not compare. -/
structure Sortable (pool : List Ranked) : Prop where
  compares : ∀ a ∈ pool, ∀ b ∈ pool, (compareScores b.score a.score).isSome = true
  lawful : Std.TransCmp fun a b : {result // result ∈ pool} => a.1.order b.1
  settled : ∀ fallback, pool.mergeSort Ranked.precedes =
    pool.mergeSort fun a b => ((compareScores b.score a.score).getD fallback).isLE

theorem sortable_of_numbers {pool : List Ranked}
    (numbers : ∀ result ∈ pool, result.score.isNaN = false) : Sortable pool where
  compares := by
    intro a aIn b bIn
    rw [Ranked.compareScores_place (numbers b bIn) (numbers a aIn), Option.isSome_some]
  lawful :=
    { eq_swap := by
        rintro ⟨a, aIn⟩ ⟨b, bIn⟩
        rw [Ranked.order_eq (numbers a aIn) (numbers b bIn),
          Ranked.order_eq (numbers b bIn) (numbers a aIn)]
        exact Std.OrientedCmp.eq_swap
      isLE_trans := by
        rintro ⟨a, aIn⟩ ⟨b, bIn⟩ ⟨c, cIn⟩ first second
        rw [Ranked.order_eq (numbers a aIn) (numbers b bIn)] at first
        rw [Ranked.order_eq (numbers b bIn) (numbers c cIn)] at second
        rw [Ranked.order_eq (numbers a aIn) (numbers c cIn)]
        exact Std.TransCmp.isLE_trans second first }
  settled := by
    intro fallback
    apply mergeSort_congr
    intro a aIn b bIn
    have compared := Ranked.compareScores_place (numbers b bIn) (numbers a aIn)
    rw [Ranked.precedes_eq, Ranked.order, compared, Option.getD_some, Option.getD_some]

/-- Whatever scoring has collected can be sorted, whichever entries the embeddings have: only scores
that reach the threshold are collected, and those are numbers. A threshold that is not a number lets
nothing through. -/
theorem scored_sortable {policy : ScoreErrorPolicy} {query : Embedding} {threshold : Float}
    {candidates : List Candidate} {reached : List Ranked}
    (collected : scored policy query threshold candidates = .ok reached) :
    Sortable reached ∧ (threshold.isNaN = true → reached = []) := by
  have numbers : ∀ result ∈ reached, threshold.isNaN = false ∧ result.score.isNaN = false := by
    intro result member
    rw [scored_eq_survivors collected] at member
    exact not_isNaN_of_le (threshold_le_of_survives member)
  refine ⟨sortable_of_numbers fun result member => (numbers result member).2, ?_⟩
  intro unordered
  rw [List.eq_nil_iff_forall_not_mem]
  intro result member
  rw [(numbers result member).1] at unordered
  contradiction

/-- Candidates without numbers for scores are left out. A norm that overflows makes the score zero, and
that is sorted with the others. -/
theorem scored_sortable_overflow :
    let query : Embedding := [1, 0]
    let candidates : List Candidate := [⟨"opposite", some [-1, 0]⟩, ⟨"infinite", some [1 / 0, 0]⟩,
      ⟨"undefined", some [0 / 0, 1]⟩, ⟨"large", some [1e20, 0]⟩, ⟨"same", some [2, -0]⟩]
    let reached : List Ranked := [⟨"opposite", -1⟩, ⟨"large", 0⟩, ⟨"same", 1⟩]
    scored .abort query (-1) candidates = .ok reached ∧ Sortable reached ∧
      ((-1 : Float).isNaN = true → reached = []) := by
  intro query candidates reached
  have collected : scored .abort query (-1) candidates = .ok reached := by decide +kernel
  exact ⟨collected, scored_sortable collected⟩

end VectorSearch
