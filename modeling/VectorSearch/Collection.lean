import Std.Data.HashMap
import VectorSearch.Store.Backend
import VectorSearch.SearchRequest
import VectorSearch.Ranking

namespace VectorSearch

/-! Collections: documents that are embedded, stored and searched by similarity.

Documents are taken one after the other, in order, and the first failure ends an operation;
what was stored before it stays stored. A search fetches candidates from the backend and
ranks them here.
-/

structure Collection (σ : Type) where
  backend : Backend σ
  embedder : Embedder σ
  policy : ScoreErrorPolicy

structure Hit where
  document : Document
  score : Float

/-- How many documents are pushed at once when many are loaded. -/
def batchSize : Nat := 1000

/-- A list in slices of `batchSize`, of which the last may be shorter. -/
def batches (items : List α) : List (List α) :=
  match items with
  | [] => []
  | item :: rest => (item :: rest).take batchSize :: batches ((item :: rest).drop batchSize)
termination_by items.length
decreasing_by simp only [batchSize, List.length_drop, List.length_cons]; omega

/-- Fetched documents taken apart for a ranking: their candidates in order, and what is left of
each document under its identifier. -/
structure Pool where
  candidates : List Candidate
  bodies : Std.HashMap String Document

namespace Pool

/-- Adds documents to the bodies that are held; one whose identifier is held already is
passed over. -/
def collect (bodies : Std.HashMap String Document) : List Document → Pool
  | [] => ⟨[], bodies⟩
  | document :: rest =>
      if bodies.contains document.id then collect bodies rest
      else
        let body := { document with embedding := none }
        let pool := collect (bodies.insert document.id body) rest
        { pool with candidates := document.candidate :: pool.candidates }

def ofDocuments (documents : List Document) : Pool :=
  collect ∅ documents

/-- The embeddings of the candidates under their identifiers. -/
def embeddings (pool : Pool) : Std.HashMap String (Option Embedding) :=
  .ofList (pool.candidates.map fun candidate => (candidate.id, candidate.embedding))

end Pool

/-- Puts the documents of a ranking together again. A body and its embedding are handed out
once, and a result without a body is left out. -/
def joinHits (bodies : Std.HashMap String Document)
    (embeddings : Std.HashMap String (Option Embedding)) : List Ranked → List Hit
  | [] => []
  | result :: rest =>
      match bodies[result.id]? with
      | none => joinHits bodies embeddings rest
      | some body =>
          ⟨{ body with embedding := embeddings[result.id]?.join }, result.score⟩ ::
            joinHits (bodies.erase result.id) (embeddings.erase result.id) rest

/-- A search must return at least one document. -/
def checkTopK (topK : Nat) : Except StoreError Unit :=
  if topK = 0 then .error (.invalidRequest "top_k must be at least 1") else .ok ()

namespace Collection

/-- A collection each call of which, on its embedder or its backend, is recorded. -/
def recorded (collection : Collection σ) : Collection σ :=
  { collection with backend := collection.backend.recorded, embedder := collection.embedder.recorded }

def embed (collection : Collection σ) (text : String) : Act σ StoreError Embedding :=
  Act.mapError .embedding (collection.embedder.embed text)

/-- Embeds a document anew and stores it. -/
def addOne (collection : Collection σ) (document : Document) : Act σ StoreError Unit := do
  let embedding ← collection.embed document.content
  collection.backend.push (document.withEmbedding embedding)

/-- Embeds and stores documents one by one, a number of them at a time. -/
def add (collection : Collection σ) (concurrency : Nat) (documents : List Document) :
    Act σ StoreError Nat := do
  let _ ← Act.buffered (max 1 concurrency) collection.addOne [] documents
  return documents.length

def embedMissing (collection : Collection σ) (document : Document) : Act σ StoreError Document := do
  match document.embedding with
  | some _ => return document
  | none => return document.withEmbedding (← collection.embed document.content)

/-- Embeds all documents that need it, a number of them at a time, then stores all of them in
batches. -/
def load (collection : Collection σ) (concurrency : Nat) (documents : List Document) :
    Act σ StoreError Nat := do
  let embedded ← Act.buffered (max 1 concurrency) collection.embedMissing [] documents
  (batches embedded).forM collection.backend.pushBatch
  return embedded.length

/-- Ranks the candidates for a query vector; of documents with the same identifier only the
first one counts. -/
def searchByEmbedding (collection : Collection σ) (query : Embedding) (limits : Limits) :
    Act σ StoreError (List Hit) := do
  Act.ofExcept (checkTopK limits.topK)
  let pool := Pool.ofDocuments (← collection.backend.fetch limits.filter)
  match rank collection.policy query pool.candidates limits.threshold limits.topK with
  | .error cause => Act.fail (.similarity cause)
  | .ok ranked => do
      Act.measure (.ranking pool.candidates.length ranked.length)
      return joinHits pool.bodies pool.embeddings ranked

def search (collection : Collection σ) (request : SearchRequest) : Act σ StoreError (List Hit) := do
  Act.ofExcept (checkTopK request.limits.topK)
  let query ← collection.embed request.query
  collection.searchByEmbedding query request.limits

end Collection

end VectorSearch
