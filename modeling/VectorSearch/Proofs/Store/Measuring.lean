import VectorSearch.Http.Script
import VectorSearch.Proofs.Metrics.Counting
import VectorSearch.Proofs.Store.Addressing

namespace VectorSearch

/-! What a payload store measures.

An operation hands over one request or none. A request that was handed over is measured once, where
the operation ends: when nothing comes back, when the answer is no success, when it cannot be read, or
when all is done. So the counters of a store add up to the requests that it handed over.
-/

namespace Backend

def Operation.name : Operation → String
  | .push _ => "push"
  | .pushBatch _ => "push_batch"
  | .fetch _ => "fetch_candidates"

/-- The operations of a run, each with whether it succeeded. -/
def results (backend : Backend σ) : List Operation → World σ → List (Operation × Bool)
  | [], _ => []
  | operation :: rest, world =>
      let outcome := (backend.perform operation).outcome world
      (operation, outcome.1.isOk) :: backend.results rest outcome.2

end Backend

/-- What the counter of operations shows in a world. -/
def World.operationCount (world : World σ) (backend operation status : String) : Nat :=
  Metrics.operationCount backend operation status world.measured.reverse

namespace PayloadStore

variable {store : PayloadStore} {operation : Backend.Operation}

/-- What ends an operation before it has a request: a batch of nothing, a document that the store
refuses, a filter that does not compile, or no address. -/
def Stops (store : PayloadStore) : Backend.Operation → Prop
  | .push document =>
      (store.check document).isOk = false ∨ (store.endpoint "payload" none).isOk = false
  | .pushBatch documents =>
      documents = [] ∨ (∃ document ∈ documents, (store.check document).isOk = false) ∨
        (store.endpoint "payloads" none).isOk = false
  | .fetch filter =>
      (∃ refused ∈ filter, (refused.compile store.negation).isOk = false) ∨
        (store.endpoint "payloads" none).isOk = false

theorem endpoint_isOk_eq (store : PayloadStore) (suffix : String) (query : Option String) :
    (store.endpoint suffix query).isOk = (store.endpoint suffix none).isOk := by
  unfold endpoint
  dsimp only
  cases query <;> cases Url.parse _ <;> rfl

theorem toOption_eq_none_iff {result : Except ε α} :
    result.toOption = none ↔ result.isOk = false := by
  cases result <;> simp [Except.toOption, Except.isOk, Except.toBool]

theorem ok_bind (value : α) (next : α → Except ε β) : (Except.ok value >>= next) = next value :=
  rfl

theorem ok_fails_or (value : α) (other : Prop) :
    (Except.ok value : Except ε α).isOk = false ∨ other ↔ other :=
  or_iff_right Bool.false_ne_true.symm

theorem isOk_map (result : Except ε α) (formed : α → β) :
    (do return formed (← result) : Except ε β).isOk = result.isOk := by
  cases result <;> rfl

theorem query_isOk_eq_false_iff {filter : Option Filter} :
    (store.query filter).isOk = false ↔
      ∃ refused ∈ filter, (refused.compile store.negation).isOk = false := by
  cases filter with
  | none => simp [query, Except.isOk, Except.toBool]
  | some filter =>
      rw [query]
      cases compiled : filter.compile store.negation <;>
        simp [compiled, Except.isOk, Except.toBool]

theorem forM_check_isOk_eq_false_iff {documents : List Document} :
    (documents.forM store.check).isOk = false ↔
      ∃ document ∈ documents, (store.check document).isOk = false := by
  rw [forM_check_isOk]
  simp

theorem requestFor?_eq_none_iff : store.requestFor? operation = none ↔ store.Stops operation := by
  cases operation with
  | push document =>
      rw [requestFor?, toOption_eq_none_iff, pushRequest, Stops]
      cases store.check document with
      | error reason => exact iff_of_true rfl (.inl rfl)
      | ok _ => rw [ok_fails_or, ok_bind, isOk_map]
  | pushBatch documents =>
      cases documents with
      | nil => exact iff_of_true rfl (.inl rfl)
      | cons first rest =>
          change (store.pushBatchRequest (first :: rest)).toOption = none ↔ _
          rw [toOption_eq_none_iff, pushBatchRequest, Stops,
            or_iff_right (List.cons_ne_nil first rest), ← forM_check_isOk_eq_false_iff]
          cases (first :: rest).forM store.check with
          | error reason => exact iff_of_true rfl (.inl rfl)
          | ok _ => rw [ok_fails_or, ok_bind, isOk_map]
  | fetch filter =>
      rw [requestFor?, toOption_eq_none_iff, fetchRequest, Stops, ← query_isOk_eq_false_iff]
      cases store.query filter with
      | error reason => exact iff_of_true rfl (.inl rfl)
      | ok query => rw [ok_fails_or, ok_bind, isOk_map, endpoint_isOk_eq]

/-- What an operation puts on record: nothing if it stops before it has a request, and otherwise the
request, with one measure of the status that the operation ends in. -/
inductive Recorded (store : PayloadStore) (operation : String) (before : World σ) :
    Option Http.Request → Bool → World σ → Prop where
  | stopped {succeeded : Bool} {after : World σ} (handed : after.handed = before.handed)
      (measured : after.measured = before.measured) :
      Recorded store operation before none succeeded after
  | asked {request : Http.Request} {succeeded : Bool} {after : World σ} (items : Nat)
      (handed : after.handed = request :: before.handed)
      (measured : after.measured =
        .operation store.layout.name operation (Status.of succeeded) items :: before.measured) :
      Recorded store operation before (some request) succeeded after

theorem Recorded.handed_eq {name : String} {before after : World σ}
    {request? : Option Http.Request} {succeeded : Bool}
    (recorded : store.Recorded name before request? succeeded after) :
    after.handed = request?.toList ++ before.handed := by
  cases recorded with
  | stopped handed _ => exact handed
  | asked _ handed _ => exact handed

theorem Recorded.operationCount_eq {name : String} {before after : World σ}
    {request? : Option Http.Request} {succeeded : Bool}
    (recorded : store.Recorded name before request? succeeded after)
    (backend operation status : String) :
    after.operationCount backend operation status =
      before.operationCount backend operation status +
        if request?.isSome = true ∧ store.layout.name = backend ∧ name = operation ∧
          Status.of succeeded = status then 1 else 0 := by
  cases recorded with
  | stopped _ measured => simp [World.operationCount, measured]
  | asked items _ measured =>
      rw [World.operationCount, measured, List.reverse_cons, Metrics.operationCount_append]
      simp [World.operationCount]

/-- A request that is performed is on record; what is left to measure is a success. -/
theorem perform_recorded (store : PayloadStore) (network : Http.Network σ) (operation : String)
    (request : Http.Request) (world : World σ) :
    match (store.perform network operation request).outcome world with
    | (.ok _, after) => after.handed = request :: world.handed ∧ after.measured = world.measured
    | (.error _, after) => store.Recorded operation world (some request) false after := by
  simp only [perform, Act.outcome_bind, Act.outcome_exchange]
  by_cases sendable : request.isSendable = true
  · simp only [if_pos sendable]
    rcases (network.send request world.state).1 with _ | response
    · exact .asked 0 rfl rfl
    · dsimp only
      by_cases success : response.isSuccess = true
      · rw [if_pos success]
        exact ⟨rfl, rfl⟩
      · rw [if_neg success]
        exact .asked 0 rfl rfl
  · simp only [if_neg sendable]
    exact .asked 0 rfl rfl

theorem post_recorded (store : PayloadStore) (network : Http.Network σ)
    (formed : Except StoreError Http.Request) (name : String) (items : Nat) (world : World σ) :
    let outcome := Act.outcome (do
        let request ← Act.ofExcept formed
        let _ ← store.perform network name request
        Act.measure (.operation store.layout.name name Status.success items)) world
    store.Recorded name world formed.toOption outcome.1.isOk outcome.2 := by
  simp only [Act.outcome_bind, Act.outcome_ofExcept]
  cases formed with
  | error reason => exact .stopped rfl rfl
  | ok request =>
      have performed := store.perform_recorded network name request world
      dsimp only
      generalize (store.perform network name request).outcome world = outcome at performed ⊢
      rcases outcome with ⟨_ | body, after⟩
      · exact performed
      · exact .asked items performed.1 (congrArg (_ :: ·) performed.2)

theorem fetch_recorded (store : PayloadStore) (network : Http.Network σ) (filter : Option Filter)
    (world : World σ) :
    let outcome := ((store.backend network).fetch filter).outcome world
    store.Recorded "fetch_candidates" world (store.fetchRequest filter).toOption outcome.1.isOk
      outcome.2 := by
  simp only [backend, Act.outcome_bind, Act.outcome_ofExcept]
  cases store.fetchRequest filter with
  | error reason => exact .stopped rfl rfl
  | ok request =>
      have performed := store.perform_recorded network "fetch_candidates" request world
      dsimp only
      generalize (store.perform network "fetch_candidates" request).outcome world = outcome
        at performed ⊢
      rcases outcome with ⟨_ | body, after⟩
      · exact performed
      -- The answer came, and is measured now that it can be read or not.
      · dsimp only
        cases Json.readWith (Json.Shape.list Document.Draft.shape) body with
        | error _ => exact .asked 0 performed.1 (congrArg (_ :: ·) performed.2)
        | ok drafts => exact .asked _ performed.1 (congrArg (_ :: ·) performed.2)

theorem operation_recorded (store : PayloadStore) (network : Http.Network σ)
    (operation : Backend.Operation) (world : World σ) :
    let outcome := ((store.backend network).perform operation).outcome world
    store.Recorded operation.name world (store.requestFor? operation) outcome.1.isOk outcome.2 := by
  cases operation with
  | push document => exact store.post_recorded network (store.pushRequest document) "push" 1 world
  | pushBatch documents =>
      cases documents with
      | nil => exact .stopped rfl rfl
      | cons first rest =>
          exact store.post_recorded network (store.pushBatchRequest (first :: rest)) "push_batch"
            (first :: rest).length world
  | fetch filter =>
      have recorded := store.fetch_recorded network filter world
      simp only [Backend.perform, Act.outcome_bind]
      generalize ((store.backend network).fetch filter).outcome world = outcome at recorded ⊢
      rcases outcome with ⟨_ | documents, after⟩ <;> exact recorded

/-- The result of an operation that counts as one of a name and a status. -/
def countsAs (store : PayloadStore) (name status : String) (result : Backend.Operation × Bool) :
    Bool :=
  (store.requestFor? result.1).isSome && decide (result.1.name = name ∧ Status.of result.2 = status)

theorem run_handed (store : PayloadStore) (network : Http.Network σ)
    (operations : List Backend.Operation) (world : World σ) :
    ((store.backend network).run operations world).2.handed =
      (operations.filterMap store.requestFor?).reverse ++ world.handed := by
  induction operations generalizing world with
  | nil => rfl
  | cons operation rest ih =>
      have here := (store.operation_recorded network operation world).handed_eq
      rw [Backend.run, ih, here, List.filterMap_cons]
      cases store.requestFor? operation <;> simp

theorem run_operationCount (store : PayloadStore) (network : Http.Network σ)
    (operations : List Backend.Operation) (world : World σ) (name status : String) :
    ((store.backend network).run operations world).2.operationCount store.layout.name name status =
      world.operationCount store.layout.name name status +
        ((store.backend network).results operations world).countP (store.countsAs name status) := by
  induction operations generalizing world with
  | nil => rfl
  | cons operation rest ih =>
      have here := (store.operation_recorded network operation world).operationCount_eq
        store.layout.name name status
      rw [Backend.run, ih, here, Backend.results, List.countP_cons]
      simp only [countsAs, true_and, Bool.and_eq_true, decide_eq_true_eq]
      omega

theorem countsAs_add (store : PayloadStore) (name : String) (operation : Backend.Operation)
    (succeeded : Bool) :
    ((if store.countsAs name Status.success (operation, succeeded) then 1 else 0) +
        if store.countsAs name Status.failure (operation, succeeded) then 1 else 0) =
      (([operation].filter (·.name = name)).filterMap store.requestFor?).length := by
  by_cases named : operation.name = name <;> cases succeeded <;>
    cases asked : store.requestFor? operation <;>
    simp [countsAs, named, asked, Status.of, Status.success, Status.failure]

/-- An operation with a request ends in success or in failure, and counts as that. -/
theorem countP_success_add_failure (store : PayloadStore) (network : Http.Network σ)
    (operations : List Backend.Operation) (world : World σ) (name : String) :
    let results := (store.backend network).results operations world
    results.countP (store.countsAs name Status.success) +
        results.countP (store.countsAs name Status.failure) =
      ((operations.filter (·.name = name)).filterMap store.requestFor?).length := by
  induction operations generalizing world with
  | nil => rfl
  | cons operation rest ih =>
      have here := store.countsAs_add name operation
        (((store.backend network).perform operation).outcome world).1.isOk
      rw [← List.singleton_append, List.filter_append, List.filterMap_append, List.length_append,
        ← here, ← ih (((store.backend network).perform operation).outcome world).2,
        List.singleton_append]
      simp only [Backend.results, List.countP_cons]
      omega

/-- Every operation hands over one request or stops before it has one. Where it hands one over, the
counter of operations goes up by one for its name and for the status that it ends in, and where it
stops nothing goes up. So over a run the counts of successes and failures add up to the requests that
were handed over. -/
theorem requests_counted_once (store : PayloadStore) (network : Http.Network σ)
    (operations : List Backend.Operation) (world : World σ) :
    (∀ (operation : Backend.Operation) (before : World σ),
      let request? := store.requestFor? operation
      let outcome := ((store.backend network).perform operation).outcome before
      (request? = none ↔ store.Stops operation) ∧
      outcome.2.handed = request?.toList ++ before.handed ∧
      ∀ backend name status, outcome.2.operationCount backend name status =
        before.operationCount backend name status +
          if request?.isSome = true ∧ store.layout.name = backend ∧ operation.name = name ∧
            Status.of outcome.1.isOk = status then 1 else 0) ∧
    let backend := store.backend network
    let after := (backend.run operations world).2
    let count (world : World σ) (name status : String) :=
      world.operationCount store.layout.name name status
    after.handed = (operations.filterMap store.requestFor?).reverse ++ world.handed ∧
    (∀ name status, count after name status = count world name status +
      (backend.results operations world).countP (store.countsAs name status)) ∧
    ∀ name, count after name Status.success + count after name Status.failure =
      count world name Status.success + count world name Status.failure +
        ((operations.filter (·.name = name)).filterMap store.requestFor?).length := by
  have counted := store.run_operationCount network operations world
  refine ⟨?_, store.run_handed network operations world, counted, ?_⟩
  · intro operation before
    have recorded := store.operation_recorded network operation before
    exact ⟨requestFor?_eq_none_iff, recorded.handed_eq, recorded.operationCount_eq⟩
  · intro name
    have successes := counted name Status.success
    have failures := counted name Status.failure
    have both := store.countP_success_add_failure network operations world name
    dsimp only at both ⊢
    omega

example :
    let store : PayloadStore := ⟨.root, "http://localhost:6767", none, "notes", some 1, .legacy⟩
    let push (embedding : Embedding) : Backend.Operation := .push ⟨"a", "x", [], some embedding⟩
    let network := Http.Script.ofAnswers
      [none, some ⟨500, "full"⟩, some ⟨201, ""⟩, some ⟨200, "no list"⟩, some ⟨200, "[]"⟩]
    let after := ((store.backend Http.Script.network).run
      [push [1], push [], push [1], .pushBatch [], push [1], .fetch none, .fetch none]
      (.start network ⟨0⟩)).2
    after.handed.length = 5 ∧
      [("push", "success"), ("push", "error"), ("push_batch", "success"),
        ("fetch_candidates", "success"), ("fetch_candidates", "error")].map
          (fun (name, status) => after.operationCount "similake" name status) = [1, 2, 0, 1, 1] := by
  decide +kernel

end PayloadStore

end VectorSearch
