import VectorSearch.Proofs.Document
import VectorSearch.Proofs.Json.Floats
import VectorSearch.Proofs.Store.LastWrite
import VectorSearch.Store.Payload

namespace VectorSearch

/-! What a payload store leaves with its server.

The server is any that keeps the documents of a post or refuses the post, and lists what it keeps
when asked for payloads. It may keep texts as they are or values that it has read, as long as it
lists the same values. A run of operations leaves it with the documents of those that succeeded.
-/

namespace PayloadStore

/-- Requests of the store can be addressed and put on the wire. -/
structure Reaches (store : PayloadStore) : Prop where
  one : ∃ url, store.endpoint "payload" none = .ok url ∧ url.isHttp = true
  all : ∃ url, store.endpoint "payloads" none = .ok url ∧ url.isHttp = true
  headers : store.headers.all (Http.isHeaderValue ·.2) = true

/-- A text that says a value, in any order of members and any spelling of numerals. -/
def Says (text : String) (value : Json) : Prop :=
  ∃ outline, Json.outline text = (outline, true) ∧ value.outlined.Alike outline

/-- A request posts documents. It is answered: what the server holds stays as it is unless the answer
is a success, and the documents are added if the server takes them, which it does with success. -/
def Appends (network : Http.Network σ) (takes : Document → Prop)
    (holds : σ → List Document → Prop) (request : Http.Request) (posted : List Document) : Prop :=
  ∀ {state held}, holds state held → ∃ response after,
    network.send request state = (some response, after) ∧
      (response.isSuccess = false → holds after held) ∧
      ((∀ document ∈ posted, takes document) →
        response.isSuccess = true ∧ holds after (held ++ posted))

/-- A server that keeps the documents that the store posts, as far as it takes them. What a state of
it holds is a relation, so that a server may hold documents in any form. -/
structure Keeps (store : PayloadStore) (network : Http.Network σ) (takes : Document → Prop)
    (holds : σ → List Document → Prop) : Prop where
  one : ∀ {request document}, request.method = .post →
    store.endpoint "payload" none = .ok request.url →
    request.body = some document.toJson.print → Appends network takes holds request [document]
  all : ∀ {request documents}, request.method = .post →
    store.endpoint "payloads" none = .ok request.url →
    request.body = some (Json.arr (documents.map Document.toJson)).print →
    Appends network takes holds request documents
  list : ∀ {request state held}, holds state held → request.method = .get →
    store.endpoint "payloads" none = .ok request.url →
    ∃ response after, network.send request state = (some response, after) ∧
      response.isSuccess = true ∧ holds after held ∧
      Says response.body (.arr (held.map Document.toJson))
  unchanged : ∀ {request state held}, holds state held → request.method = .get →
    holds (network.send request state).2 held

/-- The store sends an operation: every document in it passes the check. -/
def admits (store : PayloadStore) (operation : Backend.Operation) : Bool :=
  operation.documents.all fun document => (store.check document).isOk

variable {store : PayloadStore} {network : Http.Network σ} {takes : Document → Prop}
  {holds : σ → List Document → Prop} {world : World σ} {held : List Document}

theorem outcome_perform {request : Http.Request} {response : Http.Response} {after : σ}
    (sendable : request.isSendable = true)
    (sent : network.send request world.state = (some response, after)) (store : PayloadStore)
    (operation : String) :
    (store.perform network operation request).outcome world =
      if response.isSuccess then
        (.ok response.body, { world with state := after, handed := request :: world.handed })
      else (store.failed operation (.remote response.status response.body)).outcome
        { world with state := after, handed := request :: world.handed } := by
  simp only [perform, Act.outcome_bind, Act.outcome_exchange, if_pos sendable, sent]
  cases response.isSuccess <;> rfl

theorem Reaches.sendable (reaches : store.Reaches) {method : Http.Method} {url : Url}
    (isHttp : url.isHttp = true) (body : Option String) :
    (Http.Request.mk method url store.headers body).isSendable = true :=
  Bool.and_eq_true_iff.mpr ⟨isHttp, reaches.headers⟩

theorem exists_isHttp {suffix : String} {query : Option String}
    (found : (store.endpoint suffix query).toOption.map Url.isHttp = some true) :
    ∃ url, store.endpoint suffix query = .ok url ∧ url.isHttp = true := by
  cases address : store.endpoint suffix query with
  | error reason => simp [address, Except.toOption] at found
  | ok url => exact ⟨url, rfl, by simpa [address, Except.toOption] using found⟩

theorem Reaches.of_isHttp
    (one : (store.endpoint "payload" none).toOption.map Url.isHttp = some true)
    (all : (store.endpoint "payloads" none).toOption.map Url.isHttp = some true)
    (headers : store.headers.all (Http.isHeaderValue ·.2) = true) : store.Reaches :=
  ⟨exists_isHttp one, exists_isHttp all, headers⟩

/-- What storing documents leaves a server holding: no more than before if that fails, as it does for
documents that are not sent and does not for those that are sent and taken. -/
structure Leaves (takes : Document → Prop) (holds : σ → List Document → Prop)
    (held documents : List Document) (sent succeeded : Bool) (after : σ) : Prop where
  refused : succeeded = false → holds after held
  kept : succeeded = true → (∀ document ∈ documents, takes document) →
    holds after (held ++ documents)
  unsent : sent = false → succeeded = false
  taken : sent = true → (∀ document ∈ documents, takes document) → succeeded = true

theorem Appends.leaves {request : Http.Request} {documents : List Document}
    (appends : Appends network takes holds request documents)
    (sendable : request.isSendable = true) (holding : holds world.state held)
    (store : PayloadStore) (operation : String) (measured : Measure) :
    let outcome := (do
      let _ ← store.perform network operation request
      Act.measure measured : Act σ StoreError Unit).outcome world
    Leaves takes holds held documents true outcome.1.isOk outcome.2.state := by
  obtain ⟨response, after, sent, refused, taken⟩ := appends holding
  simp only [Act.outcome_bind, outcome_perform sendable sent]
  cases success : response.isSuccess with
  | false =>
      rw [success] at refused taken
      exact ⟨fun _ => refused rfl, nofun, nofun, fun _ all => nomatch (taken all).1⟩
  | true =>
      rw [success] at taken
      exact ⟨nofun, fun _ all => (taken all).2, nofun, fun _ _ => rfl⟩

theorem push_step (reaches : store.Reaches) (keeps : store.Keeps network takes holds)
    (holding : holds world.state held) (document : Document) :
    let outcome := ((store.backend network).push document).outcome world
    Leaves takes holds held [document] (store.admits (.push document)) outcome.1.isOk
      outcome.2.state := by
  obtain ⟨url, found, isHttp⟩ := reaches.one
  have appends : Appends network takes holds
      ⟨.post, url, store.headers, some document.toJson.print⟩ [document] :=
    keeps.one rfl found rfl
  have admitted : store.admits (.push document) = (store.check document).isOk := Bool.and_true _
  rw [admitted]
  cases checked : store.check document with
  | error reason =>
      have refused : store.pushRequest document = .error reason := by
        rw [pushRequest, checked]
        rfl
      simp only [backend, Act.outcome_bind, Act.outcome_ofExcept, refused]
      exact ⟨fun _ => holding, nofun, fun _ => rfl, nofun⟩
  | ok _ =>
      have requested : store.pushRequest document =
          .ok ⟨.post, url, store.headers, some document.toJson.print⟩ := by
        rw [pushRequest, checked, found]
        rfl
      have leaves := appends.leaves (reaches.sendable isHttp _) holding store "push"
        (.operation store.layout.name "push" Status.success 1)
      simp only [Act.outcome_bind] at leaves
      simp only [backend, Act.outcome_bind, Act.outcome_ofExcept, requested]
      exact leaves

theorem forM_check_isOk (documents : List Document) :
    (documents.forM store.check).isOk =
      documents.all fun document => (store.check document).isOk := by
  induction documents with
  | nil => rfl
  | cons document rest ih =>
      rw [List.all_cons, ← ih]
      change (store.check document >>= fun _ => rest.forM store.check).isOk = _
      cases store.check document <;> rfl

theorem pushBatch_step (reaches : store.Reaches) (keeps : store.Keeps network takes holds)
    (holding : holds world.state held) (documents : List Document) :
    let outcome := ((store.backend network).pushBatch documents).outcome world
    Leaves takes holds held documents (store.admits (.pushBatch documents)) outcome.1.isOk
      outcome.2.state := by
  cases documents with
  | nil => exact ⟨nofun, fun _ _ => by simpa [backend] using holding, nofun, fun _ _ => rfl⟩
  | cons first rest =>
      obtain ⟨url, found, isHttp⟩ := reaches.all
      have appends : Appends network takes holds ⟨.post, url, store.headers,
          some (Json.arr ((first :: rest).map Document.toJson)).print⟩ (first :: rest) :=
        keeps.all rfl found rfl
      have admitted : store.admits (.pushBatch (first :: rest)) =
          ((first :: rest).forM store.check).isOk := (forM_check_isOk _).symm
      rw [admitted]
      simp only [backend, List.isEmpty_cons, Bool.false_eq_true, if_false, Act.outcome_bind,
        Act.outcome_ofExcept]
      cases checked : (first :: rest).forM store.check with
      | error reason =>
          have refused : store.pushBatchRequest (first :: rest) = .error reason := by
            rw [pushBatchRequest, checked]
            rfl
          simp only [refused]
          exact ⟨fun _ => holding, nofun, fun _ => rfl, nofun⟩
      | ok _ =>
          have requested : store.pushBatchRequest (first :: rest) =
              .ok ⟨.post, url, store.headers,
                some (Json.arr ((first :: rest).map Document.toJson)).print⟩ := by
            rw [pushBatchRequest, checked, found]
            rfl
          have leaves := appends.leaves (reaches.sendable isHttp _) holding store "push_batch"
            (.operation store.layout.name "push_batch" Status.success (first :: rest).length)
          simp only [Act.outcome_bind] at leaves
          simp only [requested]
          exact leaves

theorem perform_state (request : Http.Request) (operation : String) :
    ((store.perform network operation request).outcome world).2.state =
      if request.isSendable then (network.send request world.state).2 else world.state := by
  simp only [perform, Act.outcome_bind, Act.outcome_exchange]
  by_cases sendable : request.isSendable = true
  · simp only [if_pos sendable]
    rcases (network.send request world.state).1 with _ | response
    · rfl
    · dsimp only
      split <;> rfl
  · simp only [if_neg sendable]
    rfl

theorem fetch_state_eq (filter : Option Filter) :
    (((store.backend network).fetch filter).outcome world).2.state =
      match store.fetchRequest filter with
      | .error _ => world.state
      | .ok request =>
          if request.isSendable then (network.send request world.state).2 else world.state := by
  simp only [backend, Act.outcome_bind, Act.outcome_ofExcept]
  cases store.fetchRequest filter with
  | error reason => rfl
  | ok request =>
      have performed := @perform_state _ store network world request "fetch_candidates"
      dsimp only
      rw [← performed]
      rcases (store.perform network "fetch_candidates" request).outcome world with ⟨_ | body, after⟩
      · rfl
      · dsimp only
        split <;> rfl

theorem fetch_state (keeps : store.Keeps network takes holds) (holding : holds world.state held)
    (filter : Option Filter) :
    holds (((store.backend network).fetch filter).outcome world).2.state held := by
  rw [fetch_state_eq]
  cases requested : store.fetchRequest filter with
  | error reason => exact holding
  | ok request =>
      have get : request.method = .get := by
        simp only [fetchRequest, Json.bind_eq_ok_iff] at requested
        obtain ⟨_, _, _, _, ⟨⟩⟩ := requested
        rfl
      dsimp only
      split
      next => exact keeps.unchanged holding get
      next => exact holding

theorem Leaves.accepted {documents : List Document} {sent succeeded : Bool} {after : σ}
    (leaves : Leaves takes holds held documents sent succeeded after) :
    let accepted := if succeeded then documents else []
    ((∀ document ∈ accepted, takes document) → holds after (held ++ accepted)) ∧
      ((sent = true → ∀ document ∈ documents, takes document) →
        accepted = if sent then documents else []) := by
  cases succeeded with
  | false =>
      refine ⟨fun _ => (List.append_nil held).symm ▸ leaves.refused rfl, fun all => ?_⟩
      cases sent with
      | false => rfl
      | true => exact nomatch leaves.taken rfl (all rfl)
  | true =>
      refine ⟨fun all => leaves.kept rfl all, fun _ => ?_⟩
      cases sent with
      | false => exact nomatch leaves.unsent rfl
      | true => rfl

theorem perform_step (reaches : store.Reaches) (keeps : store.Keeps network takes holds)
    (holding : holds world.state held) (operation : Backend.Operation) :
    let outcome := ((store.backend network).perform operation).outcome world
    let accepted := if outcome.1.isOk then operation.documents else []
    ((∀ document ∈ accepted, takes document) → holds outcome.2.state (held ++ accepted)) ∧
      ((store.admits operation = true → ∀ document ∈ operation.documents, takes document) →
        accepted = if store.admits operation then operation.documents else []) := by
  cases operation with
  | push document => exact (push_step reaches keeps holding document).accepted
  | pushBatch documents => exact (pushBatch_step reaches keeps holding documents).accepted
  | fetch filter =>
      have state := fetch_state keeps holding filter
      simp only [Backend.Operation.documents, ite_self, List.append_nil, implies_true, and_true,
        Backend.perform, Act.outcome_bind]
      revert state
      rcases ((store.backend network).fetch filter).outcome world with ⟨_ | _, after⟩ <;>
        exact fun state _ => state

/-- A run leaves a server holding the documents of the operations that succeeded, as far as it takes
those. If it takes all that is sent, these are the operations that the store sends. -/
theorem run_holds (reaches : store.Reaches) (keeps : store.Keeps network takes holds)
    (operations : List Backend.Operation) (holding : holds world.state held) :
    let outcome := (store.backend network).run operations world
    ((∀ document ∈ outcome.1, takes document) → holds outcome.2.state (held ++ outcome.1)) ∧
      ((∀ operation ∈ operations, store.admits operation = true →
          ∀ document ∈ operation.documents, takes document) →
        outcome.1 = (operations.filter store.admits).flatMap Backend.Operation.documents) := by
  induction operations generalizing world held with
  | nil => exact ⟨fun _ => by simpa [Backend.run] using holding, fun _ => rfl⟩
  | cons operation rest ih =>
      obtain ⟨kept, sent⟩ := perform_step reaches keeps holding operation
      have split : ∀ (ok : Bool) (others : List Document),
          (if ok then operation.documents ++ others else others) =
            (if ok then operation.documents else []) ++ others := by
        intro ok others
        cases ok <;> rfl
      simp only [Backend.run, split]
      constructor
      · intro taken
        obtain ⟨here, later⟩ := List.forall_mem_append.mp taken
        rw [← List.append_assoc]
        exact (ih (kept here)).1 later
      · intro taken
        obtain ⟨here, later⟩ := List.forall_mem_cons.mp taken
        have accepted := sent here
        have here' : ∀ document ∈ (if (((store.backend network).perform operation).outcome
            world).1.isOk then operation.documents else []), takes document := by
          rw [accepted]
          split
          next admitted => exact here admitted
          next => exact List.forall_mem_nil _
        rw [(ih (kept here')).2 later, accepted, List.filter_cons]
        split <;> rfl

end PayloadStore

end VectorSearch
