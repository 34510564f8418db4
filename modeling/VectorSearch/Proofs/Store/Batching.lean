import VectorSearch.Proofs.Store.LastWrite

namespace VectorSearch

namespace MemoryStore

variable {dimensions : Option Nat} {document : Document} {documents : List Document}

/-- Why a document is not stored. -/
inductive Refuses (dimensions : Option Nat) (document : Document) : StoreError → Prop where
  | missing (lacking : document.embedding = none) :
      Refuses dimensions document (.missingEmbedding document.id)
  | mismatched {embedding : Embedding} {expected : Nat}
      (found : document.embedding = some embedding) (fixed : dimensions = some expected)
      (different : embedding.length ≠ expected) :
      Refuses dimensions document (.dimensionMismatch expected embedding.length)

theorem check_eq_error_iff {reason : StoreError} :
    check dimensions document = .error reason ↔ Refuses dimensions document reason := by
  constructor
  · intro refused
    unfold check at refused
    split at refused
    next lacking =>
      cases refused
      exact .missing lacking
    next embedding expected found =>
      split at refused
      next => cases refused
      next different =>
        cases refused
        exact .mismatched found rfl different
    next => cases refused
  · rintro (lacking | ⟨found, rfl, different⟩)
    · simp only [check, lacking]
    · simp only [check, found, if_neg different]

theorem forM_check_eq_error_iff {reason : StoreError} :
    documents.forM (check dimensions) = .error reason ↔
      ∃ before faulty after, documents = before ++ faulty :: after ∧
        (∀ other ∈ before, Fits dimensions other) ∧ Refuses dimensions faulty reason := by
  rw [forM_eq_error_iff]
  simp only [check_eq_ok_iff, check_eq_error_iff]

theorem pushEach_cons (document : Document) (rest : List Document) (world : World MemoryStore) :
    (pushEach (standalone dimensions).push (document :: rest)).outcome world =
      match check dimensions document with
      | .error reason => (.error reason, world)
      | .ok _ =>
          (pushEach (standalone dimensions).push rest).outcome { world with
            state := world.state.insert document
            measured := .operation "memory" "push" Status.success 1 :: world.measured } := by
  rw [pushEach, Act.outcome_forM_cons, push_outcome]
  cases check dimensions document <;> rfl

/-- Documents that fit are stored one after the other, whatever comes behind them. -/
theorem exists_pushEach_append {before : List Document}
    (fitting : ∀ document ∈ before, Fits dimensions document) (rest : List Document)
    (world : World MemoryStore) :
    ∃ between : World MemoryStore, between.state = world.state.insertAll before ∧
      (pushEach (standalone dimensions).push (before ++ rest)).outcome world =
        (pushEach (standalone dimensions).push rest).outcome between := by
  induction before generalizing world with
  | nil => exact ⟨world, rfl, rfl⟩
  | cons document before ih =>
      obtain ⟨here, others⟩ := List.forall_mem_cons.mp fitting
      rw [List.cons_append, pushEach_cons, check_eq_ok_iff.mpr here]
      exact ih others { world with
        state := world.state.insert document
        measured := .operation "memory" "push" Status.success 1 :: world.measured }

theorem pushEach_fitting (fitting : ∀ document ∈ documents, Fits dimensions document)
    (world : World MemoryStore) :
    ∃ after, (pushEach (standalone dimensions).push documents).outcome world = (.ok (), after) ∧
      after.state = world.state.insertAll documents := by
  obtain ⟨after, stored, ends⟩ := exists_pushEach_append fitting [] world
  rw [List.append_nil] at ends
  exact ⟨after, ends, stored⟩

theorem pushEach_refused {before after : List Document} {faulty : Document} {reason : StoreError}
    (fitting : ∀ other ∈ before, Fits dimensions other)
    (refused : Refuses dimensions faulty reason) (world : World MemoryStore) :
    ∃ left, (pushEach (standalone dimensions).push (before ++ faulty :: after)).outcome world =
        (.error reason, left) ∧ left.state = world.state.insertAll before := by
  obtain ⟨left, stored, ends⟩ := exists_pushEach_append fitting (faulty :: after) world
  rw [pushEach_cons, check_eq_error_iff.mpr refused] at ends
  exact ⟨left, ends, stored⟩

/-- A batch comes to what storing its documents one by one comes to, with the same failure if it
fails, and leaves the same behind if it does not. It fails with the first of its documents that
does not fit, and then it changes nothing, where one by one those before it stay stored. -/
theorem pushBatch_all_or_nothing (dimensions : Option Nat) (documents : List Document)
    (world : World MemoryStore) :
    let batch := ((standalone dimensions).pushBatch documents).outcome world
    let each := (pushEach (standalone dimensions).push documents).outcome world
    batch.1 = each.1 ∧
      (batch.1 = .ok () ↔ ∀ document ∈ documents, Fits dimensions document) ∧
      (batch.1 = .ok () → batch.2.state = each.2.state) ∧
      ∀ reason, batch.1 = .error reason → batch.2 = world ∧
        ∃ before faulty after, documents = before ++ faulty :: after ∧
          (∀ other ∈ before, Fits dimensions other) ∧ Refuses dimensions faulty reason ∧
          each.2.state = world.state.insertAll before := by
  intro batch each
  cases checked : documents.forM (check dimensions) with
  | ok _ =>
      have fitting := forM_check_eq_ok_iff.mp checked
      obtain ⟨after, ends, stored⟩ := pushEach_fitting fitting world
      simp only [batch, each, pushBatch_outcome, checked, ends]
      exact ⟨trivial, iff_of_true trivial fitting, fun _ => stored.symm, nofun⟩
  | error reason =>
      obtain ⟨before, faulty, after, rfl, fitting, refused⟩ := forM_check_eq_error_iff.mp checked
      obtain ⟨left, ends, stored⟩ := @pushEach_refused _ _ after _ _ fitting refused world
      have unfit : ¬ ∀ document ∈ before ++ faulty :: after, Fits dimensions document := by
        rw [← forM_check_eq_ok_iff, checked]
        nofun
      simp only [batch, each, pushBatch_outcome, checked, ends]
      refine ⟨trivial, iff_of_false nofun unfit, nofun, ?_⟩
      rintro _ ⟨⟩
      exact ⟨trivial, before, faulty, after, rfl, fitting, refused, stored⟩

end MemoryStore

end VectorSearch
