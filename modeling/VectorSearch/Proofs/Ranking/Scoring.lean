import VectorSearch.Ranking

namespace VectorSearch

/-- The candidates whose cosine with a query reaches a threshold, in order, with their scores. -/
def survivors (query : Embedding) (threshold : Float) (candidates : List Candidate) : List Ranked :=
  candidates.filterMap fun candidate =>
    match Embedding.cosine (some query) candidate.embedding with
    | .ok score => if threshold ≤ score then some ⟨candidate.id, score⟩ else none
    | .error _ => none

theorem threshold_le_of_survives {query : Embedding} {threshold : Float}
    {candidates : List Candidate} {result : Ranked}
    (survives : result ∈ survivors query threshold candidates) : threshold ≤ result.score := by
  obtain ⟨candidate, _, kept⟩ := List.mem_filterMap.mp survives
  split at kept
  · split at kept
    · cases kept
      assumption
    · contradiction
  · contradiction

theorem survives_of_le {query : Embedding} {threshold score : Float} {candidates : List Candidate}
    {candidate : Candidate} (member : candidate ∈ candidates)
    (cosine : Embedding.cosine (some query) candidate.embedding = .ok score)
    (reached : threshold ≤ score) : ⟨candidate.id, score⟩ ∈ survivors query threshold candidates :=
  List.mem_filterMap.mpr ⟨candidate, member, by simp only [cosine, if_pos reached]⟩

/-- A candidate with an embedding of the query's length, neither of norm zero. -/
def Candidate.isScorable (query : Embedding) (candidate : Candidate) : Bool :=
  match candidate.embedding with
  | none => false
  | some embedding =>
      embedding.length == query.length && !(query.squaredNorm == 0) && !(embedding.squaredNorm == 0)

/-- Why a candidate has no score. A missing embedding comes before a wrong length, and that before
a norm of zero. -/
def Candidate.fault? (query : Embedding) (candidate : Candidate) : Option SimilarityError :=
  match candidate.embedding with
  | none => some .nullVector
  | some embedding =>
      if embedding.length ≠ query.length then
        some (.dimensionMismatch query.length embedding.length)
      else if query.squaredNorm == 0 || embedding.squaredNorm == 0 then some .zeroNorm
      else none

namespace Candidate

variable {query : Embedding} {candidate : Candidate}

theorem fault?_eq_none_iff : candidate.fault? query = none ↔ candidate.isScorable query = true := by
  rcases candidate with ⟨id, _ | embedding⟩
  · simp [fault?, isScorable]
  · by_cases same : embedding.length = query.length <;> simp [fault?, isScorable, same]

theorem fault?_isSome_iff :
    (candidate.fault? query).isSome = true ↔ candidate.isScorable query = false := by
  rw [← Option.ne_none_iff_isSome, ne_eq, fault?_eq_none_iff, Bool.not_eq_true]

theorem cosine_eq_error_iff {reason : SimilarityError} :
    Embedding.cosine (some query) candidate.embedding = .error reason ↔
      candidate.fault? query = some reason := by
  rcases candidate with ⟨id, _ | embedding⟩
  · simp [fault?, Embedding.cosine]
  · by_cases same : embedding.length = query.length
    · by_cases zero : (query.squaredNorm == 0 || embedding.squaredNorm == 0) = true <;>
        simp [fault?, Embedding.cosine, Embedding.product, same, zero, bind, Except.bind]
    · have different : query.length ≠ embedding.length := Ne.symm same
      simp [fault?, Embedding.cosine, Embedding.product, same, different, bind, Except.bind]

end Candidate

variable {query : Embedding} {threshold : Float}

theorem survivors_cons_error {candidate : Candidate} {reason : SimilarityError}
    (cosine : Embedding.cosine (some query) candidate.embedding = .error reason)
    (rest : List Candidate) :
    survivors query threshold (candidate :: rest) = survivors query threshold rest := by
  simp only [survivors, List.filterMap_cons, cosine]

theorem survivors_cons_ok {candidate : Candidate} {score : Float}
    (cosine : Embedding.cosine (some query) candidate.embedding = .ok score)
    (rest : List Candidate) :
    survivors query threshold (candidate :: rest) =
      if threshold ≤ score then ⟨candidate.id, score⟩ :: survivors query threshold rest
      else survivors query threshold rest := by
  simp only [survivors, List.filterMap_cons, cosine]
  by_cases reached : threshold ≤ score
  · simp only [if_pos reached]
  · simp only [if_neg reached]

theorem scored_skip (candidates : List Candidate) :
    scored .skip query threshold candidates = .ok (survivors query threshold candidates) := by
  induction candidates with
  | nil => rfl
  | cons candidate rest ih =>
      cases cosine : Embedding.cosine (some query) candidate.embedding with
      | error reason =>
          rw [survivors_cons_error cosine, ← ih]
          simp only [scored, cosine]
      | ok score =>
          rw [survivors_cons_ok cosine]
          simp only [scored, cosine, ih]
          rfl

theorem scored_abort (candidates : List Candidate) :
    scored .abort query threshold candidates =
      match candidates.findSome? (·.fault? query) with
      | some reason => .error reason
      | none => .ok (survivors query threshold candidates) := by
  induction candidates with
  | nil => rfl
  | cons candidate rest ih =>
      cases cosine : Embedding.cosine (some query) candidate.embedding with
      | error reason =>
          have faulty := Candidate.cosine_eq_error_iff.mp cosine
          simp only [scored, cosine, List.findSome?_cons, faulty]
      | ok score =>
          have sound : candidate.fault? query = none := by
            rw [Option.eq_none_iff_forall_ne_some]
            intro reason faulty
            rw [Candidate.cosine_eq_error_iff.mpr faulty] at cosine
            contradiction
          rw [survivors_cons_ok cosine]
          simp only [scored, cosine, ih, List.findSome?_cons, sound]
          cases rest.findSome? (·.fault? query) <;> rfl

theorem scored_eq_survivors {policy : ScoreErrorPolicy} {candidates : List Candidate}
    {results : List Ranked} (succeeded : scored policy query threshold candidates = .ok results) :
    results = survivors query threshold candidates := by
  cases policy with
  | skip =>
      rw [scored_skip] at succeeded
      exact (Except.ok.inj succeeded).symm
  | abort =>
      rw [scored_abort] at succeeded
      split at succeeded
      · contradiction
      · exact (Except.ok.inj succeeded).symm

end VectorSearch
