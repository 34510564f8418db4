import VectorSearch.Store.Payload

namespace VectorSearch

structure EmbeddingEndpoint where
  base : String
  apiKey : Option String
  model : String
  dimensions : Option Nat
deriving DecidableEq, Repr

namespace EmbeddingEndpoint

/-- The request for one text; the length is asked for where one is set. -/
def requestBody (endpoint : EmbeddingEndpoint) (text : String) : Json :=
  .obj ([("model", .str endpoint.model), ("input", .str text)] ++
    match endpoint.dimensions with
    | some dimensions => [("dimensions", .int dimensions)]
    | none => [])

def request (endpoint : EmbeddingEndpoint) (text : String) : Except EmbeddingError Http.Request :=
  match Url.parse (dropEndSlashes endpoint.base ++ "/embeddings") with
  | .error fault => .error (.transport fault.message)
  | .ok url =>
      .ok ⟨.post, url,
        ("content-type", "application/json") ::
          (match endpoint.apiKey with
            | some key => [("authorization", "Bearer " ++ key)]
            | none => []),
        some (endpoint.requestBody text).print⟩

open Json Shape in
/-- A record with one part that must be there. -/
def single (name : String) (shape : Shape α) : Shape α :=
  record [.of [name] id (fun _ value => some value) shape] none id

open Json Shape in
def vectors : Shape (List Embedding) :=
  single "data" (list (single "embedding" (list Shape.single)))

/-- The first vector of an answer, if it has the length that is set. -/
def read (endpoint : EmbeddingEndpoint) (response : Http.Response) :
    Except EmbeddingError Embedding :=
  if !response.isSuccess then .error (.provider response.status response.body)
  else
    match Json.readWith vectors response.body with
    | .error _ => .error (.unreadable "the answer holds no vectors")
    | .ok [] => .error .empty
    | .ok (vector :: _) =>
        match endpoint.dimensions with
        | none => .ok vector
        | some expected =>
            if vector.length = expected then .ok vector
            else .error (.dimensionMismatch expected vector.length)

/-- The vector of a text, or why there is none. -/
def ask (endpoint : EmbeddingEndpoint) (network : Http.Network σ) (text : String) :
    Act σ EmbeddingError (Except EmbeddingError Embedding) := do
  match endpoint.request text with
  | .error reason => return .error reason
  | .ok request =>
      match ← Act.exchange network request with
      | none => return .error (.transport "no response")
      | some response => return endpoint.read response

/-- The endpoint as an embedder. Every text is measured once. -/
def embedder (endpoint : EmbeddingEndpoint) (network : Http.Network σ) : Embedder σ where
  embed text := do
    let result ← endpoint.ask network text
    Act.measure (.embedding endpoint.model (Status.of result.isOk))
    Act.ofExcept result

end EmbeddingEndpoint

end VectorSearch
