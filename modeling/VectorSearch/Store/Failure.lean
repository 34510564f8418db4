import VectorSearch.Filter.Query
import VectorSearch.Similarity

namespace VectorSearch

inductive EmbeddingError where
  | provider (status : Nat) (body : String)
  | unreadable (reason : String)
  | empty
  | dimensionMismatch (expected actual : Nat)
  | transport (reason : String)
deriving DecidableEq, Repr

namespace EmbeddingError

def message : EmbeddingError → String
  | .provider status body => "Embedding endpoint returned " ++ toString status ++ ": " ++ body
  | .unreadable reason => "Failed to parse embedding response: " ++ reason
  | .empty => "No embeddings returned from provider"
  | .dimensionMismatch expected actual =>
      "Expected " ++ toString expected ++ "-dimensional embedding, got " ++ toString actual
  | .transport reason => "HTTP error: " ++ reason

end EmbeddingError

inductive StoreError where
  | filter (cause : FilterError)
  | similarity (cause : SimilarityError)
  | embedding (cause : EmbeddingError)
  | transport (reason : String)
  | remote (status : Nat) (body : String)
  | unreadable (reason : String)
  | filteringUnsupported (backend : String)
  | dimensionMismatch (expected actual : Nat)
  | missingEmbedding (id : String)
  | invalidRequest (reason : String)
deriving DecidableEq, Repr

namespace StoreError

def message : StoreError → String
  | .filter cause => "Filter error: " ++ cause.message
  | .similarity cause => "Similarity error: " ++ cause.message
  | .embedding cause => "Embedding error: " ++ cause.message
  | .transport reason => "HTTP error: " ++ reason
  | .remote status body => "Store returned " ++ toString status ++ ": " ++ body
  | .unreadable reason => "Serialization error: " ++ reason
  | .filteringUnsupported backend =>
      "The " ++ backend ++ " store doesn't support metadata filtering"
  | .dimensionMismatch expected actual =>
      "Vector dimension mismatch: expected " ++ toString expected ++ ", got " ++ toString actual
  | .missingEmbedding id => "Document '" ++ id ++ "' has no embedding"
  | .invalidRequest reason => "Invalid request: " ++ reason

end StoreError

end VectorSearch
