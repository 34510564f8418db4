import VectorSearch.Metrics.Exposition

namespace VectorSearch.Metrics

def Series.isOf (metric : String) (labels : Labels) (series : Series) : Bool :=
  decide (series.metric = metric ∧ series.labels = labels)

/-- The count of the series with a name and labels; one that is not there counts nothing. -/
def shown (metric : String) (labels : Labels) (all : List Series) : Nat :=
  ((all.find? (Series.isOf metric labels)).map Series.count).getD 0

variable {metric : String} {labels : Labels}

theorem Sample.count_start (sample : Sample) : sample.start.count = 1 := by
  cases sample <;> rfl

theorem shown_collect (all : List Series) (sample : Sample) :
    shown metric labels (collect all sample) =
      shown metric labels all + if sample.start.isOf metric labels then 1 else 0 := by
  have found (series : Series) (rest : List Series) :
      shown metric labels (series :: rest) =
        if series.isOf metric labels then series.count else shown metric labels rest := by
    rw [shown, List.find?_cons]
    cases series.isOf metric labels <;> rfl
  induction all with
  | nil =>
      rw [collect, found, sample.count_start]
      split <;> rfl
  | cons series rest ih =>
      rw [collect]
      split
      next same =>
        have alike : sample.start.isOf metric labels = series.isOf metric labels := by
          rw [Series.isOf, Series.isOf, same.1, same.2]
        rw [found, found, alike]
        change (if series.isOf metric labels then series.count + 1 else _) = _
        split <;> rfl
      next different =>
        rw [found, found, ih]
        split
        next here =>
          have elsewhere : sample.start.isOf metric labels = false := by
            simp only [Series.isOf, decide_eq_true_eq] at here
            simp only [Series.isOf, decide_eq_false_iff_not]
            rintro ⟨name, tags⟩
            exact different ⟨here.1.trans name.symm, here.2.trans tags.symm⟩
          rw [elsewhere]
          rfl
        next => rfl

theorem shown_foldl (taken : List Sample) (all : List Series) :
    shown metric labels (taken.foldl collect all) =
      shown metric labels all + taken.countP (·.start.isOf metric labels) := by
  induction taken generalizing all with
  | nil => rfl
  | cons sample rest ih =>
      rw [List.foldl_cons, ih, shown_collect, List.countP_cons]
      omega

theorem shown_series_append (measures : List Measure) (measure : Measure) :
    shown metric labels (series (measures ++ [measure])) =
      shown metric labels (series measures) +
        (samples measure).countP (·.start.isOf metric labels) := by
  rw [series, List.flatMap_append, List.foldl_append, shown_foldl, List.flatMap_singleton]
  rfl

/-- What the counter of operations shows after measures in the order in which they were taken. -/
def operationCount (backend operation status : String) (measures : List Measure) : Nat :=
  shown "similake_store_operations_total"
    [("backend", backend), ("operation", operation), ("status", status)] (series measures)

/-- Measuring an operation counts one of its backend, its name and its status, and nothing else. -/
theorem operationCount_append (backend operation status : String) (measures : List Measure)
    (backend' operation' status' : String) (items : Nat) :
    operationCount backend operation status
        (measures ++ [.operation backend' operation' status' items]) =
      operationCount backend operation status measures +
        if backend' = backend ∧ operation' = operation ∧ status' = status then 1 else 0 := by
  rw [operationCount, shown_series_append, operationCount]
  simp [samples, Sample.start, Series.isOf, List.countP_cons]

end VectorSearch.Metrics
