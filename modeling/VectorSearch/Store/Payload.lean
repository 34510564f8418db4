import VectorSearch.Store.Backend
import VectorSearch.Json.Printer

namespace VectorSearch

/-! The payload store: a collection on a server, reached over HTTP.

Documents are posted one by one or as an array; candidates come back as an array, narrowed
by a query string where there is a filter. Two layouts of the addresses are in use, which
differ in what stands before the collection.
-/

/-- Where a server keeps its collections. -/
inductive PayloadLayout where
  | root
  | versioned
deriving DecidableEq, Repr

namespace PayloadLayout

def name : PayloadLayout → String
  | .root => "similake"
  | .versioned => "cosline"

def ofName? : String → Option PayloadLayout
  | "similake" => some .root
  | "cosline" => some .versioned
  | _ => none

/-- What stands between the server and its collections. -/
def path : PayloadLayout → String
  | .root => ""
  | .versioned => "/api/v1"

end PayloadLayout

structure PayloadStore where
  layout : PayloadLayout
  base : String
  apiKey : Option String
  collection : String
  dimensions : Option Nat
  negation : NegationStyle
deriving DecidableEq, Repr

def dropEndSlashes (text : String) : String :=
  String.ofList (Text.dropEndWhile (· == '/') text.toList)

namespace PayloadStore

/-- A store whose base is a URL. -/
def ofBase (layout : PayloadLayout) (base : String) (apiKey : Option String) (collection : String)
    (dimensions : Option Nat) (negation : NegationStyle) : Except StoreError PayloadStore :=
  match Url.parse base with
  | .ok _ => .ok ⟨layout, dropEndSlashes base, apiKey, collection, dimensions, negation⟩
  | .error fault =>
      .error (.invalidRequest ("invalid store URL " ++ base ++ ": " ++ fault.message))

/-- The address of an operation on the collection, with a query unless that is empty. -/
def endpoint (store : PayloadStore) (suffix : String) (query : Option String) :
    Except StoreError Url :=
  let text := store.base ++ store.layout.path ++ "/collections/" ++ store.collection ++ "/" ++ suffix
  match Url.parse text, query with
  | .error fault, _ => .error (.invalidRequest (text ++ ": " ++ fault.message))
  | .ok url, some query => .ok (if query.isEmpty then url else url.withQuery query)
  | .ok url, none => .ok url

/-- The key, where there is one, goes with every request. -/
def headers (store : PayloadStore) : List (String × String) :=
  (match store.apiKey with
    | some key => [("api-key", key)]
    | none => []) ++ [("content-type", "application/json")]

/-- Where the store has a fixed length, a document must have an embedding of it. -/
def check (store : PayloadStore) (document : Document) : Except StoreError Unit :=
  match store.dimensions, document.embedding with
  | none, _ => .ok ()
  | some _, none => .error (.missingEmbedding document.id)
  | some expected, some embedding =>
      if embedding.length = expected then .ok ()
      else .error (.dimensionMismatch expected embedding.length)

def pushRequest (store : PayloadStore) (document : Document) : Except StoreError Http.Request := do
  store.check document
  return ⟨.post, ← store.endpoint "payload" none, store.headers, some document.toJson.print⟩

def pushBatchRequest (store : PayloadStore) (documents : List Document) :
    Except StoreError Http.Request := do
  documents.forM store.check
  return ⟨.post, ← store.endpoint "payloads" none, store.headers,
    some (Json.arr (documents.map Document.toJson)).print⟩

def query (store : PayloadStore) : Option Filter → Except StoreError (Option String)
  | none => .ok none
  | some filter =>
      match filter.compile store.negation with
      | .ok query => .ok (some query)
      | .error cause => .error (.filter cause)

def fetchRequest (store : PayloadStore) (filter : Option Filter) : Except StoreError Http.Request := do
  return ⟨.get, ← store.endpoint "payloads" (← store.query filter), store.headers, none⟩

/-- Measures a failed operation and fails. -/
def failed (store : PayloadStore) (operation : String) (reason : StoreError) :
    Act σ StoreError α := do
  Act.measure (.operation store.layout.name operation Status.failure 0)
  Act.fail reason

/-- The body of the answer to a request, which must be a success. -/
def perform (store : PayloadStore) (network : Http.Network σ) (operation : String)
    (request : Http.Request) : Act σ StoreError String := do
  match ← Act.exchange network request with
  | none => store.failed operation (.transport "no response")
  | some response =>
      if response.isSuccess then return response.body
      else store.failed operation (.remote response.status response.body)

/-- The store as a backend. Every request that was handed over is measured once. -/
def backend (store : PayloadStore) (network : Http.Network σ) : Backend σ where
  name := store.layout.name
  push document := do
    let request ← Act.ofExcept (store.pushRequest document)
    let _ ← store.perform network "push" request
    Act.measure (.operation store.layout.name "push" Status.success 1)
  pushBatch documents := do
    if documents.isEmpty then pure ()
    else do
      let request ← Act.ofExcept (store.pushBatchRequest documents)
      let _ ← store.perform network "push_batch" request
      Act.measure (.operation store.layout.name "push_batch" Status.success documents.length)
  fetch filter := do
    let request ← Act.ofExcept (store.fetchRequest filter)
    let body ← store.perform network "fetch_candidates" request
    match Json.readWith (Json.Shape.list Document.Draft.shape) body with
    | .error _ => store.failed "fetch_candidates" (.unreadable "the answer is no list of documents")
    | .ok drafts => do
        let documents ← Act.complete drafts
        Act.measure (.operation store.layout.name "fetch_candidates" Status.success documents.length)
        return documents

end PayloadStore

end VectorSearch
