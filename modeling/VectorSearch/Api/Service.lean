import VectorSearch.Api.Form
import VectorSearch.Api.MediaType
import VectorSearch.Api.Problem
import VectorSearch.Collection
import VectorSearch.Json.Printer
import VectorSearch.Metrics.Exposition

namespace VectorSearch.Api

def version : String := "0.1.0"

/-- What the interface is to a collection: how many documents are added at a time, its settings
for searches, and those of the measures if they are to be shown. -/
structure Service (σ : Type) where
  collection : Collection σ
  concurrency : Nat
  search : SearchSettings
  metrics : Option MetricsSettings

/-- A request as it arrives; the target is a path with a query. -/
structure Request where
  method : String
  target : String
  contentType : Option String
  body : String
deriving DecidableEq, Repr

structure Response where
  status : Nat
  contentType : Option String
  allow : Option String
  body : String
deriving DecidableEq, Repr

namespace Response

def json (status : Nat) (value : Json) : Response :=
  ⟨status, some "application/json", none, value.print⟩

def ofProblem (problem : Problem) : Response :=
  json problem.status problem.toJson

/-- The response to a request that a route has no method for. -/
def notAllowed (allow : String) : Response :=
  ⟨405, none, some allow, ""⟩

def notFound : Response :=
  ⟨404, none, none, ""⟩

/-- The response to a target that is not even looked at. -/
def targetTooLong : Response :=
  ⟨414, none, none, ""⟩

end Response

/-- The most octets that the target of a request may have. -/
def targetLimit : Nat := 65534

/-- The most octets that a body may have. -/
def bodyLimit : Nat := 2097152

/-- A hit without its embedding. -/
def hitJson (hit : Hit) : Json :=
  .obj [("id", .str hit.document.id), ("content", .str hit.document.content),
    ("metadata", .obj hit.document.metadata), ("score", .float hit.score)]

/-- A search as a body gives it; all but the query may be left open. -/
structure Payload where
  query : Option String
  filter : Option (Option Filter)
  topK : Option (Option Nat)
  threshold : Option (Option Float)

section

open Json Shape

def Payload.slots : List (Slot Payload) :=
  [.of ["query"] Payload.query (fun payload query => { payload with query := some query }) text,
    .of ["filter"] Payload.filter (fun payload filter => { payload with filter := some filter })
      (optional Filter.shape),
    .of ["top_k"] Payload.topK (fun payload topK => { payload with topK := some topK })
      (optional natural),
    .of ["similarity_threshold"] Payload.threshold
      (fun payload threshold => { payload with threshold := some threshold }) (optional double)]

/-- A search, what is left open taken from the settings. -/
def searchShape (settings : SearchSettings) : Shape SearchRequest :=
  record Payload.slots ⟨none, none, none, none⟩ fun payload => do
    return ⟨← payload.query,
      ⟨payload.filter.join, payload.topK.join.getD settings.topK,
        payload.threshold.join.getD settings.threshold⟩⟩

def documentsShape : Shape (List Document.Draft) :=
  record [.of ["documents"] id (fun _ drafts => some drafts) (list Document.Draft.shape)] none id

end

/-- Reads a JSON body, which must be declared as such. -/
def readBody (request : Request) (shape : Json.Shape α) : Except Problem α :=
  if (request.contentType.map isJsonType).getD false then
    if bodyLimit < request.body.utf8ByteSize then
      .error (Problem.invalidRequest "Failed to buffer the request body: length limit exceeded")
    else match Json.readWith shape request.body with
    | .ok value => .ok value
    | .error .malformed =>
        .error (Problem.invalidRequest "Failed to parse the request body as JSON: the text breaks off")
    | .error .mismatch =>
        .error (Problem.invalidRequest
          "Failed to deserialize the JSON body into the target type: another shape is expected")
  else .error (Problem.invalidRequest ("Expected request with \x60Content-Type: application/json\x60"))

namespace Service

def plainSearch (service : Service σ) (query : String) : SearchRequest :=
  ⟨query, ⟨none, service.search.topK, service.search.threshold⟩⟩

/-- The query that is searched for when none is given. -/
def defaultQuery : String := "spring"

/-- The outcome of an activity as a response. -/
def answer (act : Act σ StoreError α) (write : α → Json) : StateM (World σ) Response := do
  match ← act.run with
  | .ok result => return .json 200 (write result)
  | .error reason => return .ofProblem (.ofStoreError reason)

def runSearch (service : Service σ) (request : SearchRequest) : StateM (World σ) Response :=
  answer (service.collection.search request) fun hits =>
    .obj [("results", .arr (hits.map hitJson))]

def health (service : Service σ) : Response :=
  .json 200 (.obj [("status", .str "healthy"), ("version", .str version),
    ("backend", .str service.collection.backend.name)])

def metricsText (service : Service σ) : StateM (World σ) Response := do
  match service.metrics with
  | none => return ⟨503, some "text/plain", none, "Metrics not initialized"⟩
  | some settings =>
      return ⟨200, some "text/plain; version=0.0.4; charset=utf-8", none,
        Metrics.exposition settings (← get).measured.reverse⟩

def addDocuments (service : Service σ) (request : Request) : StateM (World σ) Response := do
  match readBody request documentsShape with
  | .error problem => return .ofProblem problem
  | .ok drafts =>
      answer (do service.collection.add service.concurrency (← Act.complete drafts)) fun count =>
        .obj [("added", .int count)]

def postSearch (service : Service σ) (request : Request) : StateM (World σ) Response := do
  match readBody request (searchShape service.search) with
  | .error problem => return .ofProblem problem
  | .ok search => service.runSearch search

/-- The values of a query field. -/
def queryValues (request : Request) : List String :=
  ((formFields (targetQuery request.target.toList)).filter (·.1 == "query")).map (·.2)

def getSearch (service : Service σ) (request : Request) : StateM (World σ) Response := do
  match queryValues request with
  | [] => service.runSearch (service.plainSearch defaultQuery)
  | [query] => service.runSearch (service.plainSearch query)
  | _ => return ⟨400, some "text/plain; charset=utf-8", none,
      "Failed to deserialize query string: the query is given twice"⟩

/-- The response to a request for a known method; one for the head alone has no body. -/
def respondTo (method : String) (response : StateM (World σ) Response) : StateM (World σ) Response := do
  let response ← response
  return if method = "HEAD" then { response with body := "" } else response

def isRead (method : String) : Bool :=
  method == "GET" || method == "HEAD"

/-- The response of the route that a path leads to. -/
def route (service : Service σ) (request : Request) : StateM (World σ) Response :=
  match String.ofList (targetPath request.target.toList) with
  | "/health" =>
      if isRead request.method then respondTo request.method (pure service.health)
      else pure (.notAllowed "GET,HEAD")
  | "/metrics" =>
      if isRead request.method then respondTo request.method service.metricsText
      else pure (.notAllowed "GET,HEAD")
  | "/documents" =>
      if request.method = "POST" then service.addDocuments request
      else pure (.notAllowed "POST")
  | "/search" =>
      if isRead request.method then respondTo request.method (service.getSearch request)
      else if request.method = "POST" then service.postSearch request
      else pure (.notAllowed "GET,HEAD,POST")
  | _ => pure .notFound

def respond (service : Service σ) (request : Request) : StateM (World σ) Response :=
  if targetLimit < request.target.utf8ByteSize then pure .targetTooLong
  else service.route request

end Service

end VectorSearch.Api
