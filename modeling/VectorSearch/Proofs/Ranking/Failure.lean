import Mathlib.Data.List.Basic
import VectorSearch.Proofs.Ranking.Scoring

namespace VectorSearch

variable {query : Embedding} {threshold : Float}

theorem survivors_filter_isScorable (candidates : List Candidate) :
    survivors query threshold (candidates.filter (·.isScorable query)) =
      survivors query threshold candidates := by
  rw [survivors, survivors, List.filterMap_filter]
  refine List.filterMap_congr fun candidate _ => ?_
  cases fault : candidate.fault? query with
  | none => rw [if_pos (Candidate.fault?_eq_none_iff.mp fault)]
  | some reason =>
      have unscorable : ¬ candidate.isScorable query = true := by
        simp [← Candidate.fault?_eq_none_iff, fault]
      rw [if_neg unscorable, Candidate.cosine_eq_error_iff.mpr fault]

/-- The survivors of a ranking, the best of them first. -/
def best (query : Embedding) (threshold : Float) (topK : Nat) (candidates : List Candidate) :
    List Ranked :=
  ((survivors query threshold candidates).mergeSort Ranked.precedes).take topK

theorem rank_skip (candidates : List Candidate) (topK : Nat) :
    rank .skip query candidates threshold topK = .ok (best query threshold topK candidates) := by
  rw [rank, scored_skip]
  rfl

theorem rank_abort (candidates : List Candidate) (topK : Nat) :
    rank .abort query candidates threshold topK =
      match candidates.findSome? (·.fault? query) with
      | some reason => .error reason
      | none => .ok (best query threshold topK candidates) := by
  rw [rank, scored_abort]
  cases candidates.findSome? (·.fault? query) <;> rfl

theorem rank_abort_eq_error_iff {candidates : List Candidate} {topK : Nat}
    {reason : SimilarityError} :
    rank .abort query candidates threshold topK = .error reason ↔
      candidates.findSome? (·.fault? query) = some reason := by
  rw [rank_abort]
  cases candidates.findSome? (·.fault? query) <;> simp

/-- A ranking that aborts fails exactly if a candidate has no score, and then with the first such
candidate, whatever the threshold and the number of results. One that skips never fails, and ranks
the candidates that have a score as if there were no others. -/
theorem rank_fails_by_policy (query : Embedding) (candidates : List Candidate) (threshold : Float)
    (topK : Nat) :
    ((∃ reason, rank .abort query candidates threshold topK = .error reason) ↔
        ∃ candidate ∈ candidates, candidate.isScorable query = false) ∧
      (∀ reason, rank .abort query candidates threshold topK = .error reason ↔
        ∃ before candidate after, candidates = before ++ candidate :: after ∧
          candidate.fault? query = some reason ∧ ∀ other ∈ before, other.isScorable query = true) ∧
      ∃ ranked, rank .skip query candidates threshold topK = .ok ranked ∧
        rank .abort query (candidates.filter (·.isScorable query)) threshold topK = .ok ranked := by
  refine ⟨?_, fun reason => ?_, best query threshold topK candidates, rank_skip candidates topK, ?_⟩
  · simp only [rank_abort_eq_error_iff, ← Option.isSome_iff_exists, List.findSome?_isSome_iff,
      Candidate.fault?_isSome_iff]
  · simp only [rank_abort_eq_error_iff, List.findSome?_eq_some_iff, Candidate.fault?_eq_none_iff]
  · have scorable : (candidates.filter (·.isScorable query)).findSome? (·.fault? query) = none := by
      rw [List.findSome?_eq_none_iff]
      intro candidate member
      exact Candidate.fault?_eq_none_iff.mpr (List.mem_filter.mp member).2
    rw [rank_abort, scorable]
    simp only [best, survivors_filter_isScorable]

/-- No result is asked for and no score reaches the threshold, and yet the shorter one aborts. -/
example :
    rank .abort [1, 0] [⟨"near", some [2, 0]⟩, ⟨"short", some [1]⟩, ⟨"missing", none⟩] 2 0 =
      .error (.dimensionMismatch 2 1) := by
  rw [rank_abort_eq_error_iff]
  decide +kernel

end VectorSearch
