import VectorSearch.Proofs.Ranking.Reordering

namespace VectorSearch

open Number

theorem append_inj_of_test {test : α → Bool} {left right left' right' : List α}
    (same : left ++ right = left' ++ right') (passes : ∀ item ∈ left, test item = true)
    (fails : ∀ item ∈ right, test item = false) (passes' : ∀ item ∈ left', test item = true)
    (fails' : ∀ item ∈ right', test item = false) : left = left' ∧ right = right' := by
  have kept : ∀ {first second : List α}, (∀ item ∈ first, test item = true) →
      (∀ item ∈ second, test item = false) → (first ++ second).filter test = first := by
    intro first second passing failing
    rw [List.filter_append, List.filter_eq_self.mpr passing,
      List.filter_eq_nil_iff.mpr fun item member => by simp [failing item member],
      List.append_nil]
  have first : left = left' := by
    rw [← kept passes fails, same, kept passes' fails']
  subst first
  exact ⟨rfl, List.append_cancel_left same⟩

/-- A stable sort of what is kept is what is kept of the sort. -/
theorem filter_mergeSort {le : α → α → Bool} (trans : ∀ a b c, le a b → le b c → le a c)
    (total : ∀ a b, le a b || le b a) (keep : α → Bool) (items : List α) :
    (items.mergeSort le).filter keep = (items.filter keep).mergeSort le := by
  induction items with
  | nil => simp
  | cons item rest ih =>
      obtain ⟨before, after, sorted, others, ahead⟩ := List.mergeSort_cons trans total item rest
      rw [others, List.filter_append] at ih
      rw [sorted, List.filter_append]
      cases kept : keep item with
      | false =>
          rw [List.filter_cons_of_neg (by simp [kept]), List.filter_cons_of_neg (by simp [kept]), ih]
      | true =>
          rw [List.filter_cons_of_pos kept, List.filter_cons_of_pos kept]
          obtain ⟨before', after', sorted', others', ahead'⟩ :=
            List.mergeSort_cons trans total item (rest.filter keep)
          -- Both sorts put the item behind exactly those that it does not precede.
          have behind := List.pairwise_mergeSort trans total (item :: rest)
          have behind' := List.pairwise_mergeSort trans total (item :: rest.filter keep)
          rw [sorted, List.pairwise_append, List.pairwise_cons] at behind
          rw [sorted', List.pairwise_append, List.pairwise_cons] at behind'
          obtain ⟨sameBefore, sameAfter⟩ := append_inj_of_test (ih.trans others')
            (fun other member => ahead other (List.mem_filter.mp member).1)
            (fun other member => by simp [behind.2.1.1 other (List.mem_filter.mp member).1])
            ahead' (fun other member => by simp [behind'.2.1.1 other member])
          rw [sorted', sameBefore, sameAfter]

section

variable {query : Embedding} {low high : Float}

theorem survivors_narrowed (above : low ≤ high) (candidates : List Candidate) :
    survivors query high candidates =
      (survivors query low candidates).filter fun result => decide (high ≤ result.score) := by
  rw [survivors, survivors, List.filter_filterMap]
  refine List.filterMap_congr fun candidate _ => ?_
  cases Embedding.cosine (some query) candidate.embedding with
  | error reason => rfl
  | ok score =>
      by_cases reached : high ≤ score
      · simp [Option.filter, reached, doubleLe_trans above reached]
      · by_cases reachedLow : low ≤ score <;> simp [Option.filter, reached, reachedLow]

/-- Of falling scores those that reach a threshold come first. -/
theorem exists_split_of_falling {sorted : List Ranked}
    (falling : sorted.Pairwise fun before after => after.score ≤ before.score) (high : Float) :
    ∃ rest, sorted = (sorted.filter fun result => decide (high ≤ result.score)) ++ rest ∧
      ∀ result ∈ rest, ¬ high ≤ result.score := by
  induction sorted with
  | nil => exact ⟨[], rfl, List.forall_mem_nil _⟩
  | cons first sorted ih =>
      obtain ⟨highest, others⟩ := List.pairwise_cons.mp falling
      by_cases reached : high ≤ first.score
      · obtain ⟨rest, split, below⟩ := ih others
        refine ⟨rest, ?_, below⟩
        rw [List.filter_cons_of_pos (by simpa using reached), List.cons_append, ← split]
      · have none : ∀ result ∈ first :: sorted, ¬ high ≤ result.score := by
          refine List.forall_mem_cons.mpr ⟨reached, fun result member reachedLater => ?_⟩
          exact reached (doubleLe_trans reachedLater (highest result member))
        refine ⟨first :: sorted, ?_, none⟩
        rw [List.filter_eq_nil_iff.mpr fun result member => by simp [none result member]]
        rfl

theorem best_narrowed (above : low ≤ high) {few many : Nat} (fewer : few ≤ many)
    (candidates : List Candidate) :
    best query high few candidates =
        ((best query low many candidates).filter fun result => decide (high ≤ result.score)).take
          few ∧
      best query high few candidates <+: best query low many candidates := by
  have numbers : ∀ result ∈ survivors query low candidates, result.score.isNaN = false :=
    fun result survives => (not_isNaN_of_le (threshold_le_of_survives survives)).2
  have numbersHigh : ∀ result ∈ survivors query high candidates, result.score.isNaN = false :=
    fun result survives => (not_isNaN_of_le (threshold_le_of_survives survives)).2
  have narrowed : (survivors query high candidates).mergeSort Ranked.precedes =
      ((survivors query low candidates).mergeSort Ranked.precedes).filter
        fun result => decide (high ≤ result.score) := by
    rw [mergeSort_precedes_eq numbersHigh, mergeSort_precedes_eq numbers,
      survivors_narrowed above,
      filter_mergeSort Ranked.standsBefore_trans Ranked.standsBefore_total]
  obtain ⟨rest, split, below⟩ := exists_split_of_falling (sorted_falling numbers) high
  rw [best, best, narrowed]
  generalize kept : ((survivors query low candidates).mergeSort Ranked.precedes).filter
    (fun result => decide (high ≤ result.score)) = reaching at split ⊢
  rw [split, List.take_append]
  constructor
  · have all : ∀ result ∈ reaching.take many, decide (high ≤ result.score) = true := by
      intro result member
      rw [← kept] at member
      exact (List.mem_filter.mp (List.mem_of_mem_take member)).2
    have none : ∀ result ∈ rest.take (many - reaching.length),
        ¬ decide (high ≤ result.score) = true := fun result member =>
      by simp [below result (List.mem_of_mem_take member)]
    rw [List.filter_append, List.filter_eq_self.mpr all, List.filter_eq_nil_iff.mpr none,
      List.append_nil, List.take_take, Nat.min_eq_left fewer]
  · exact (List.take_prefix_take_left fewer).trans (List.prefix_append _ _)

end

/-- A ranking with a higher threshold and for fewer results succeeds exactly if the other one does,
and with the same failure if it does not. Its results are those of the other that are not below the
threshold, as many as are asked for: the other one begins with them. -/
theorem rank_narrowed (policy : ScoreErrorPolicy) (query : Embedding)
    (candidates : List Candidate) {low high : Float} (above : low ≤ high) {few many : Nat}
    (fewer : few ≤ many) :
    (∀ reason, rank policy query candidates high few = .error reason ↔
        rank policy query candidates low many = .error reason) ∧
      ∀ wide, rank policy query candidates low many = .ok wide →
        ∃ narrow, rank policy query candidates high few = .ok narrow ∧
          narrow = (wide.filter fun result => !decide (result.score < high)).take few ∧
          narrow <+: wide := by
  have highNumber := (not_isNaN_of_le above).2
  obtain ⟨narrowed, begins⟩ := @best_narrowed query low high above few many fewer candidates
  have notBelow : ∀ result ∈ best query low many candidates,
      decide (high ≤ result.score) = !decide (result.score < high) := by
    intro result member
    have number : result.score.isNaN = false := (not_isNaN_of_le
      (threshold_le_of_survives (List.mem_mergeSort.mp (List.mem_of_mem_take member)))).2
    rw [Bool.eq_iff_iff, decide_eq_true_iff, Bool.not_eq_true', decide_eq_false_iff_not,
      doubleLe_iff_not_lt]
    exact ⟨And.left, fun notBelow => ⟨notBelow, highNumber, number⟩⟩
  rw [List.filter_congr notBelow] at narrowed
  cases policy with
  | skip =>
      rw [rank_skip, rank_skip]
      refine ⟨fun reason => iff_of_false nofun nofun, ?_⟩
      rintro _ ⟨⟩
      exact ⟨_, rfl, narrowed, begins⟩
  | abort =>
      rw [rank_abort, rank_abort]
      cases candidates.findSome? (·.fault? query) with
      | some reason => exact ⟨fun _ => Iff.rfl, nofun⟩
      | none =>
          refine ⟨fun reason => iff_of_false nofun nofun, ?_⟩
          rintro _ ⟨⟩
          exact ⟨_, rfl, narrowed, begins⟩

/-- Of three results the last is below the higher threshold, and the first of the others is
asked for. -/
theorem rank_narrowed_to_first :
    let candidates : List Candidate :=
      [⟨"slanted", some [3, 4]⟩, ⟨"long", some [2, 0]⟩, ⟨"short", some [1, 0]⟩]
    let wide : List Ranked := [⟨"long", 1⟩, ⟨"short", 1⟩, ⟨"slanted", 0.6⟩]
    (0 : Float) ≤ 0.7 ∧ 1 ≤ 3 ∧ rank .abort [1, 0] candidates 0 3 = .ok wide ∧
      ∃ narrow, rank .abort [1, 0] candidates 0.7 1 = .ok narrow ∧
        narrow = (wide.filter fun result => !decide (result.score < 0.7)).take 1 ∧
        narrow <+: wide := by
  intro candidates wide
  have above : (0 : Float) ≤ 0.7 := by decide +kernel
  have fewer : 1 ≤ 3 := by decide
  have pool : scored .abort [1, 0] 0 candidates =
      .ok [⟨"slanted", 0.6⟩, ⟨"long", 1⟩, ⟨"short", 1⟩] := by decide +kernel
  have worse : Ranked.precedes ⟨"slanted", 0.6⟩ ⟨"long", 1⟩ = false ∧
      Ranked.precedes ⟨"slanted", 0.6⟩ ⟨"short", 1⟩ = false := by decide +kernel
  have tied : Ranked.precedes ⟨"long", 1⟩ ⟨"short", 1⟩ = true := by decide +kernel
  have succeeded : rank .abort [1, 0] candidates 0 3 = .ok wide := by
    simp [rank, pool, List.mergeSort, List.MergeSort.Internal.splitInTwo, worse, tied, wide]
  exact ⟨above, fewer, succeeded,
    (rank_narrowed .abort [1, 0] candidates above fewer).2 wide succeeded⟩

end VectorSearch
