import VectorSearch.Activity

namespace VectorSearch

structure Backend (σ : Type) where
  name : String
  push : Document → Act σ StoreError Unit
  pushBatch : List Document → Act σ StoreError Unit
  fetch : Option Filter → Act σ StoreError (List Document)

/-- Batches of a backend that can only take one document at a time. -/
def pushEach (push : Document → Act σ StoreError Unit) (documents : List Document) :
    Act σ StoreError Unit :=
  documents.forM push

structure Embedder (σ : Type) where
  embed : String → Act σ EmbeddingError Embedding

def Embedder.recorded (embedder : Embedder σ) : Embedder σ where
  embed text := Act.asCall (.embed text) (embedder.embed text)

/-- A backend each call of which is recorded. -/
def Backend.recorded (backend : Backend σ) : Backend σ where
  name := backend.name
  push document := Act.asCall (.push document) (backend.push document)
  pushBatch documents := Act.asCall (.pushBatch documents) (backend.pushBatch documents)
  fetch filter := Act.asCall (.fetch filter) (backend.fetch filter)

end VectorSearch
