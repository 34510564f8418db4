import VectorSearch.Store.Failure
import VectorSearch.Json.Value

namespace VectorSearch.Api

structure Problem where
  status : Nat
  kind : String
  message : String
deriving DecidableEq, Repr

namespace Problem

/-- The envelope that every problem is sent in. -/
def toJson (problem : Problem) : Json :=
  .obj [("error", .obj [("type", .str problem.kind), ("message", .str problem.message)])]

def text (problem : Problem) : String :=
  problem.kind ++ ": " ++ problem.message

def invalidRequest (message : String) : Problem :=
  ⟨400, "invalid_request_error", message⟩

/-- The fault is the client's, or that of a server behind this one. -/
def ofStoreError (error : StoreError) : Problem :=
  match error with
  | .filter cause => ⟨400, "filter_error", cause.message⟩
  | .similarity cause => ⟨400, "similarity_error", cause.message⟩
  | .invalidRequest reason => invalidRequest reason
  | .filteringUnsupported _ => ⟨400, "filtering_unsupported", error.message⟩
  | .dimensionMismatch _ _ => ⟨400, "invalid_document", error.message⟩
  | .missingEmbedding _ => ⟨400, "invalid_document", error.message⟩
  | .embedding cause => ⟨502, "embedding_error", cause.message⟩
  | .transport _ => ⟨502, "store_error", error.message⟩
  | .remote _ _ => ⟨502, "store_error", error.message⟩
  | .unreadable _ => ⟨502, "store_error", error.message⟩

end Problem

end VectorSearch.Api
