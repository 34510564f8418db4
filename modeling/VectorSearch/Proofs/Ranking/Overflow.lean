import VectorSearch.Proofs.Number.Order
import VectorSearch.Proofs.Number.Roots
import VectorSearch.Proofs.Ranking.Failure
import VectorSearch.Proofs.Ranking.Selection

namespace VectorSearch

open Number

/-! Which scores of finite vectors are numbers.

The norms of finite vectors are no less than zero, and their roots are divisors that are infinite
or full numbers. A score is not a number only where a sum of squares or of products is infinite:
such a candidate has no fault, and reaches no threshold.
-/

namespace Embedding

variable {x y : Embedding}

/-- The sums of two vectors run out of single precision so far that their quotient is not a
number. -/
def overflows (x y : Embedding) : Bool :=
  (dot x y).isNaN || (dot x y).isInf && (x.squaredNorm.isInf || y.squaredNorm.isInf)

theorem squaredNorm_cons (entry : Float32) (x : Embedding) :
    squaredNorm (entry :: x) = (x.map fun other => other * other).foldl (· + ·) (entry * entry) := by
  rw [squaredNorm, dot, List.zipWith_self, List.map_cons, List.foldl_cons, negativeZero_add]

theorem notNegative_squares (finite : ∀ entry ∈ x, entry.isFinite = true) :
    ∀ square ∈ x.map fun entry => entry * entry, NotNegative square := by
  intro square member
  obtain ⟨entry, entryIn, rfl⟩ := List.mem_map.mp member
  exact notNegative_mul_self (finite entry entryIn)

theorem notNegative_squaredNorm (finite : ∀ entry ∈ x, entry.isFinite = true)
    (nonzero : (x.squaredNorm == 0) = false) : NotNegative x.squaredNorm := by
  cases x with
  | nil => contradiction
  | cons entry x =>
      obtain ⟨first, others⟩ := List.forall_mem_cons.mp finite
      rw [squaredNorm_cons]
      exact NotNegative.foldl_add (notNegative_squares others) (notNegative_mul_self first)

theorem within_of_squaredNorm (finite : ∀ entry ∈ x, entry.isFinite = true)
    (norm : x.squaredNorm.isInf = false) : ∀ entry ∈ x, Within 40 entry.toModel.unpack := by
  cases x with
  | nil => exact List.forall_mem_nil _
  | cons entry x =>
      obtain ⟨first, others⟩ := List.forall_mem_cons.mp finite
      rw [squaredNorm_cons] at norm
      obtain ⟨square, squares⟩ := NotNegative.not_isInf_of_foldl_add (notNegative_squares others)
        (notNegative_mul_self first) norm
      refine List.forall_mem_cons.mpr ⟨within_of_square first square, fun other member => ?_⟩
      exact within_of_square (others other member) (squares _ (List.mem_map_of_mem member))

/-- Where both norms are finite so is every product, and the sum of them is a number. -/
theorem isNaN_dot (xFinite : ∀ entry ∈ x, entry.isFinite = true)
    (yFinite : ∀ entry ∈ y, entry.isFinite = true) (xNorm : x.squaredNorm.isInf = false)
    (yNorm : y.squaredNorm.isInf = false) : (dot x y).isNaN = false := by
  refine isNaN_foldl_add ?_ rfl
  intro product member
  rw [← List.map_uncurry_zip_eq_zipWith] at member
  obtain ⟨⟨a, b⟩, both, rfl⟩ := List.mem_map.mp member
  obtain ⟨aIn, bIn⟩ := List.of_mem_zip both
  exact isFinite_mul (within_of_squaredNorm xFinite xNorm a aIn)
    (within_of_squaredNorm yFinite yNorm b bIn)

theorem not_overflows (xFinite : ∀ entry ∈ x, entry.isFinite = true)
    (yFinite : ∀ entry ∈ y, entry.isFinite = true) (xNorm : x.squaredNorm.isInf = false)
    (yNorm : y.squaredNorm.isInf = false) : x.overflows y = false := by
  rw [overflows, isNaN_dot xFinite yFinite xNorm yNorm, xNorm, yNorm, Bool.or_self, Bool.and_false]
  rfl

/-- A score of finite vectors is a number unless their sums overflow. -/
theorem isNaN_cosine (xFinite : ∀ entry ∈ x, entry.isFinite = true)
    (yFinite : ∀ entry ∈ y, entry.isFinite = true) {score : Float}
    (scored : cosine (some x) (some y) = .ok score) : score.isNaN = x.overflows y := by
  by_cases same : x.length = y.length
  · by_cases zero : (x.squaredNorm == 0 || y.squaredNorm == 0) = true
    · simp [cosine, product, same, zero, bind, Except.bind] at scored
    · obtain ⟨xNonzero, yNonzero⟩ := Bool.or_eq_false_iff.mp (Bool.eq_false_of_not_eq_true zero)
      have quotient : widen (dot x y) /
          ((widen x.squaredNorm).sqrt * (widen y.squaredNorm).sqrt) = score := by
        simpa [cosine, product, same, zero, bind, Except.bind] using scored
      rw [← quotient, isNaN_div_sqrt (notNegative_squaredNorm xFinite xNonzero)
        (notNegative_squaredNorm yFinite yNonzero) xNonzero yNonzero, overflows]
  · simp [cosine, product, same, bind, Except.bind] at scored

end Embedding

variable {query : Embedding} {threshold : Float}

theorem exists_cosine_of_abort {candidates : List Candidate} {topK : Nat} {ranked : List Ranked}
    (succeeded : rank .abort query candidates threshold topK = .ok ranked) :
    ∀ candidate ∈ candidates, ∃ embedding score, candidate.embedding = some embedding ∧
      Embedding.cosine (some query) (some embedding) = .ok score := by
  intro candidate member
  have sound : candidate.fault? query = none := by
    rw [rank_abort] at succeeded
    split at succeeded
    next => contradiction
    next none => exact List.findSome?_eq_none_iff.mp none candidate member
  cases given : candidate.embedding with
  | none => simp [Candidate.fault?, given] at sound
  | some embedding =>
      cases cosine : Embedding.cosine (some query) (some embedding) with
      | error reason =>
          rw [← given] at cosine
          rw [Candidate.cosine_eq_error_iff.mp cosine] at sound
          contradiction
      | ok score => exact ⟨embedding, score, rfl, cosine⟩

/-- Of finite vectors, a ranking that aborts and succeeds has a score for every candidate, and the
score is a number unless sums overflow, which takes an infinite norm. A candidate is among those
that the ranking takes the best of unless its score is below the threshold or one of the two is not
a number. -/
theorem rank_abort_omits {candidates : List Candidate} {topK : Nat} {ranked : List Ranked}
    (queryFinite : ∀ entry ∈ query, entry.isFinite = true)
    (candidatesFinite : ∀ candidate ∈ candidates, ∀ embedding ∈ candidate.embedding,
      ∀ entry ∈ embedding, entry.isFinite = true)
    (succeeded : rank .abort query candidates threshold topK = .ok ranked) :
    (∀ candidate ∈ candidates, ∃ embedding score, candidate.embedding = some embedding ∧
      Embedding.cosine (some query) (some embedding) = .ok score ∧
      score.isNaN = query.overflows embedding ∧
      (query.squaredNorm.isInf = false → embedding.squaredNorm.isInf = false →
        score.isNaN = false) ∧
      (threshold ≤ score ↔
        ¬ score < threshold ∧ threshold.isNaN = false ∧ query.overflows embedding = false) ∧
      (threshold ≤ score →
        ⟨candidate.id, score⟩ ∈ survivors query threshold candidates)) ∧
      ∃ positions, Selects (survivors query threshold candidates) topK positions ranked := by
  refine ⟨fun candidate member => ?_, (rank_selects succeeded).1⟩
  obtain ⟨embedding, score, given, cosine⟩ := exists_cosine_of_abort succeeded candidate member
  have finite := candidatesFinite candidate member embedding given
  have number := Embedding.isNaN_cosine queryFinite finite cosine
  refine ⟨embedding, score, given, cosine, number, ?_, ?_, ?_⟩
  · intro queryNorm norm
    rw [number]
    exact Embedding.not_overflows queryFinite finite queryNorm norm
  · rw [doubleLe_iff_not_lt, number]
  · exact survives_of_le member (given ▸ cosine)

/-- Of three finite vectors one overflows with the query and one points away from it; the other
is returned. -/
theorem rank_abort_omits_two :
    let query : Embedding := [8589934592, 0]
    let candidates : List Candidate := [⟨"huge", some [1267650600228229401496703205376, 0]⟩,
      ⟨"long", some [2, 0]⟩, ⟨"opposite", some [-1, 0]⟩]
    let ranked : List Ranked := [⟨"long", 1⟩]
    rank .abort query candidates 0 5 = .ok ranked ∧
      candidates.map (·.embedding.map query.overflows) = [some true, some false, some false] ∧
      (∀ candidate ∈ candidates, ∃ embedding score, candidate.embedding = some embedding ∧
        Embedding.cosine (some query) (some embedding) = .ok score ∧
        score.isNaN = query.overflows embedding ∧
        (query.squaredNorm.isInf = false → embedding.squaredNorm.isInf = false →
          score.isNaN = false) ∧
        (0 ≤ score ↔
          ¬ score < 0 ∧ (0 : Float).isNaN = false ∧ query.overflows embedding = false) ∧
        (0 ≤ score → ⟨candidate.id, score⟩ ∈ survivors query 0 candidates)) ∧
        ∃ positions, Selects (survivors query 0 candidates) 5 positions ranked := by
  intro query candidates ranked
  have queryFinite : ∀ entry ∈ query, entry.isFinite = true := by decide +kernel
  have candidatesFinite : ∀ candidate ∈ candidates, ∀ embedding ∈ candidate.embedding,
      ∀ entry ∈ embedding, entry.isFinite = true := by decide +kernel
  have overflowing : candidates.map (·.embedding.map query.overflows) =
      [some true, some false, some false] := by decide +kernel
  have pool : scored .abort query 0 candidates = .ok [⟨"long", 1⟩] := by decide +kernel
  have succeeded : rank .abort query candidates 0 5 = .ok ranked := by
    simp [rank, pool, ranked]
  exact ⟨succeeded, overflowing, rank_abort_omits queryFinite candidatesFinite succeeded⟩

/-- A finite vector, ranked against itself, is lost: its norm overflows, and its score is not a
number. -/
theorem rank_abort_loses_overflow :
    let vector : Embedding := [1e20]
    (∀ entry ∈ vector, entry.isFinite = true) ∧
      Embedding.cosine (some vector) (some vector) = .ok (0 / 0) ∧ (0 / 0 : Float).isNaN = true ∧
      rank .abort vector [⟨"a", some vector⟩] (-1) 5 = .ok [] := by
  intro vector
  have finite : ∀ entry ∈ vector, entry.isFinite = true := by decide +kernel
  have score : Embedding.cosine (some vector) (some vector) = .ok (0 / 0) := by decide +kernel
  have none : scored .abort vector (-1) [⟨"a", some vector⟩] = .ok [] := by decide +kernel
  refine ⟨finite, score, by decide +kernel, ?_⟩
  simp [rank, none]

end VectorSearch
