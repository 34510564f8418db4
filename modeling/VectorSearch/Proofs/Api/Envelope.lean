import VectorSearch.Proofs.Api.Search

namespace VectorSearch.Api

/-- What a request can ask of a collection. -/
inductive Task where
  | add
  | searchByBody
  | searchByAddress
deriving DecidableEq, Repr

namespace Task

def method : Task → String
  | add => "POST"
  | searchByBody => "POST"
  | searchByAddress => "GET"

def path : Task → String
  | add => "/documents"
  | searchByBody => "/search"
  | searchByAddress => "/search"

def handler (service : Service σ) (request : Request) : Task → StateM (World σ) Response
  | add => service.addDocuments request
  | searchByBody => service.postSearch request
  | searchByAddress => service.getSearch request

end Task

namespace Request

structure Asks (request : Request) (task : Task) : Prop where
  method : request.method = task.method
  path : String.ofList (targetPath request.target.toList) = task.path

/-- Its target is longer than any that is looked at. -/
def ExceedsTarget (request : Request) : Prop :=
  targetLimit < request.target.utf8ByteSize

/-- Its address asks for a search, and has more than one query. -/
def RepeatsQuery (request : Request) : Prop :=
  request.Asks .searchByAddress ∧ 2 ≤ (Service.queryValues request).length

end Request

variable {service : Service σ} {request : Request} {task : Task}

theorem respond_asks (asks : request.Asks task) (short : ¬request.ExceedsTarget) :
    service.respond request = task.handler service request := by
  have looked : ¬targetLimit < request.target.utf8ByteSize := short
  rw [Service.respond, if_neg looked, Service.route, asks.path]
  cases task <;> simp only [asks.method, Task.method, Task.path, Service.isRead] <;> rfl

theorem Request.Asks.unique {other : Task} (asks : request.Asks task) (asks' : request.Asks other) :
    task = other := by
  have method : task.method = other.method := asks.method.symm.trans asks'.method
  have path : task.path = other.path := asks.path.symm.trans asks'.path
  revert method path
  cases task <;> cases other <;> decide

namespace Response

/-- Its body is an object that holds an error, whose type and message are texts. -/
def IsEnvelope (response : Response) : Prop :=
  response.contentType = some "application/json" ∧ ∃ kind message, Json.parse response.body =
    .ok (.obj [("error", .obj [("type", .str kind), ("message", .str message)])])

/-- The answer of the reader of addresses to a query that is given twice. -/
def queryRefused : Response :=
  ⟨400, some "text/plain; charset=utf-8", none,
    "Failed to deserialize query string: the query is given twice"⟩

theorem isEnvelope_ofProblem (problem : Problem) : (ofProblem problem).IsEnvelope := by
  have readsBack : problem.toJson.ReadsBack := ⟨⟨trivial, trivial, trivial⟩, trivial⟩
  have fits : problem.toJson.nesting ≤ Json.depthLimit := by
    simp only [Problem.toJson, Json.nesting, Json.nestingMembers]
    decide
  exact ⟨rfl, problem.kind, problem.message, Json.parse_print readsBack fits⟩

theorem not_isEnvelope_queryRefused : ¬queryRefused.IsEnvelope := by
  rintro ⟨-, kind, message, read⟩
  have refused : (Json.parse queryRefused.body).isOk = false := by decide +kernel
  rw [read] at refused
  cases refused

theorem not_isEnvelope_targetTooLong : ¬targetTooLong.IsEnvelope := by
  rintro ⟨⟨⟩, -⟩

/-- A result, or a problem of the client or of a server behind the service. -/
inductive Settled : Response → Prop where
  | result (value : Json) : Settled (.json 200 value)
  | problem (problem : Problem) (blamed : problem.status = 400 ∨ problem.status = 502) :
      Settled (.ofProblem problem)

namespace Settled

variable {response : Response}

theorem status (settled : response.Settled) :
    response.status = 200 ∨ response.status = 400 ∨ response.status = 502 := by
  cases settled with
  | result value => exact .inl rfl
  | problem problem blamed => exact .inr blamed

theorem isEnvelope (settled : response.Settled)
    (failed : ¬(200 ≤ response.status ∧ response.status < 300)) : response.IsEnvelope := by
  cases settled with
  | result value => exact absurd (show 200 ≤ 200 ∧ 200 < 300 by decide) failed
  | problem problem blamed => exact isEnvelope_ofProblem problem

end Settled

end Response

theorem Problem.status_ofStoreError (error : StoreError) :
    (Problem.ofStoreError error).status = 400 ∨ (Problem.ofStoreError error).status = 502 := by
  cases error <;> first | exact .inl rfl | exact .inr rfl

/-- Whatever is wrong with a body, the client is told that its request is invalid. -/
theorem readBody_eq_error {shape : Json.Shape α} {problem : Problem}
    (refused : readBody request shape = .error problem) :
    ∃ message, problem = .invalidRequest message := by
  rw [readBody] at refused
  split at refused
  next =>
    split at refused
    next => exact ⟨_, (Except.error.inj refused).symm⟩
    next =>
      split at refused
      next => cases refused
      next => exact ⟨_, (Except.error.inj refused).symm⟩
      next => exact ⟨_, (Except.error.inj refused).symm⟩
  next => exact ⟨_, (Except.error.inj refused).symm⟩

theorem answer_settled (act : Act σ StoreError α) (write : α → Json) (world : World σ) :
    ((Service.answer act write).run world).1.Settled := by
  have outcome : act.run.run world = act.outcome world := rfl
  rw [Service.answer, StateT.run_bind, outcome]
  obtain ⟨reason | value, after⟩ := act.outcome world
  · exact .problem _ (Problem.status_ofStoreError reason)
  · exact .result (write value)

theorem addDocuments_settled (service : Service σ) (request : Request) (world : World σ) :
    ((service.addDocuments request).run world).1.Settled := by
  rw [Service.addDocuments]
  cases read : readBody request documentsShape with
  | ok drafts => exact answer_settled ..
  | error problem =>
      obtain ⟨message, rfl⟩ := readBody_eq_error read
      exact .problem _ (.inl rfl)

theorem postSearch_settled (service : Service σ) (request : Request) (world : World σ) :
    ((service.postSearch request).run world).1.Settled := by
  rw [Service.postSearch]
  cases read : readBody request (searchShape service.search) with
  | ok search => exact answer_settled ..
  | error problem =>
      obtain ⟨message, rfl⟩ := readBody_eq_error read
      exact .problem _ (.inl rfl)

theorem getSearch_settled (single : (Service.queryValues request).length < 2) (world : World σ) :
    ((service.getSearch request).run world).1.Settled := by
  rw [Service.getSearch]
  rcases queries : Service.queryValues request with _ | ⟨query, _ | ⟨second, rest⟩⟩
  · exact answer_settled ..
  · exact answer_settled ..
  · rw [queries, List.length_cons, List.length_cons] at single
    omega

theorem getSearch_of_repeated (repeated : 2 ≤ (Service.queryValues request).length) :
    service.getSearch request = pure .queryRefused := by
  rw [Service.getSearch]
  rcases queries : Service.queryValues request with _ | ⟨query, _ | ⟨second, rest⟩⟩
  · rw [queries, List.length_nil] at repeated
    omega
  · rw [queries, List.length_singleton] at repeated
    omega
  · rfl

theorem handler_settled (asks : request.Asks task) (single : ¬request.RepeatsQuery)
    (world : World σ) : ((task.handler service request).run world).1.Settled := by
  cases task with
  | add => exact addDocuments_settled ..
  | searchByBody => exact postSearch_settled ..
  | searchByAddress =>
      exact getSearch_settled (Nat.lt_of_not_le fun repeated => single ⟨asks, repeated⟩) world

/-- A response to one of the three tasks is a success, or blames the client or a server behind the
service. If it is no success, it is the envelope, unless the target is too long or gives its query
twice; then it never is, and nothing is searched for or stored. -/
theorem failures_enveloped_unless_repeated (service : Service σ) (asks : request.Asks task)
    (world : World σ) :
    let response := ((service.respond request).run world).1
    response.status ∈ [200, 400, 414, 502] ∧
    (¬(200 ≤ response.status ∧ response.status < 300) →
      (response.IsEnvelope ↔ ¬(request.ExceedsTarget ∨ request.RepeatsQuery))) ∧
    (request.ExceedsTarget → (service.respond request).run world = (.targetTooLong, world)) ∧
    (request.RepeatsQuery → ¬request.ExceedsTarget →
      (service.respond request).run world = (.queryRefused, world)) := by
  by_cases exceeds : request.ExceedsTarget
  · rw [respond_of_targetLimit_lt exceeds]
    exact ⟨show 414 ∈ [200, 400, 414, 502] by decide,
      fun _ => iff_of_false Response.not_isEnvelope_targetTooLong (not_not.mpr (.inl exceeds)),
      fun _ => rfl, fun _ short => absurd exceeds short⟩
  have unexceeded {response : Response} {after : World σ} (exceeding : request.ExceedsTarget) :
      (response, after) = (.targetTooLong, world) := absurd exceeding exceeds
  by_cases repeated : request.RepeatsQuery
  · obtain rfl := asks.unique repeated.1
    have refused : (service.respond request).run world = (.queryRefused, world) := by
      rw [respond_asks asks exceeds, Task.handler, getSearch_of_repeated repeated.2]
      rfl
    rw [refused]
    exact ⟨show 400 ∈ [200, 400, 414, 502] by decide,
      fun _ => iff_of_false Response.not_isEnvelope_queryRefused (not_not.mpr (.inr repeated)),
      unexceeded, fun _ _ => rfl⟩
  · have settled := @handler_settled _ service _ _ asks repeated world
    rw [← respond_asks asks exceeds] at settled
    have status : ((service.respond request).run world).1.status ∈ [200, 400, 414, 502] := by
      rcases settled.status with status | status | status <;> rw [status] <;> decide
    exact ⟨status, fun failed => iff_of_true (settled.isEnvelope failed) (not_or.mpr
      ⟨exceeds, repeated⟩), unexceeded, fun again => absurd again repeated⟩

/-- A service without an embedder that answers, over an empty memory. -/
def quietService : Service (Deployment Http.Script) :=
  Settings.default.service
    ⟨MemoryStore.backend Deployment.documents Deployment.setDocuments none,
      Settings.default.embedding.endpoint.embedder (Deployment.reach Http.Script.network), .abort⟩

theorem failures_enveloped_unless_repeated_body :
    let request : Request := ⟨"POST", "/search?query=a&query=b", some "application/json", "\x7b"⟩
    let world : World (Deployment Http.Script) := .start (.start (.ofAnswers [])) ⟨0⟩
    request.Asks .searchByBody ∧ ¬(request.ExceedsTarget ∨ request.RepeatsQuery) ∧
      ((quietService.respond request).run world).1.status = 400 ∧
      ((quietService.respond request).run world).1.IsEnvelope := by
  intro request world
  have asks : request.Asks .searchByBody := ⟨rfl, by decide +kernel⟩
  have short : ¬request.ExceedsTarget := by
    unfold Request.ExceedsTarget
    decide +kernel
  have single : ¬request.RepeatsQuery := fun repeated => Task.noConfusion (asks.unique repeated.1)
  have status : ((quietService.respond request).run world).1.status = 400 := by
    rw [respond_asks asks short]
    decide +kernel
  obtain ⟨-, enveloped, -⟩ := failures_enveloped_unless_repeated quietService asks world
  refine ⟨asks, not_or.mpr ⟨short, single⟩, status, (enveloped ?_).mpr (not_or.mpr ⟨short, single⟩)⟩
  rw [status]
  decide

/-- A query that is given twice is refused without an envelope. -/
theorem no_envelope_for_repeated_query :
    let request : Request := ⟨"GET", "/search?query=a&query=b", none, ""⟩
    let world : World (Deployment Http.Script) := .start (.start (.ofAnswers [])) ⟨0⟩
    request.Asks .searchByAddress ∧
      ((quietService.respond request).run world).1.status = 400 ∧
      (Json.parse ((quietService.respond request).run world).1.body).isOk = false ∧
      ¬((quietService.respond request).run world).1.IsEnvelope := by
  intro request world
  have asks : request.Asks .searchByAddress := ⟨rfl, by decide +kernel⟩
  have queries : Service.queryValues request = ["a", "b"] := by decide +kernel
  have short : ¬request.ExceedsTarget := by
    unfold Request.ExceedsTarget
    decide +kernel
  have refused : quietService.respond request = pure .queryRefused := by
    rw [respond_asks asks short, Task.handler, getSearch_of_repeated (by rw [queries]; decide)]
  rw [refused]
  exact ⟨asks, rfl, by decide +kernel, Response.not_isEnvelope_queryRefused⟩

end VectorSearch.Api
