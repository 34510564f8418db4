import VectorSearch.Store.Backend

namespace VectorSearch

/-! The store in memory.

Documents stand under their identifiers; pushing one again replaces it. Every document must
have an embedding, of a fixed length where the store has one. Filters are refused.
-/

/-- The documents of a store under their keys, no two under the same one. -/
structure MemoryStore where
  entries : List (String × Document)

namespace MemoryStore

def empty : MemoryStore := ⟨[]⟩

def documents (store : MemoryStore) : List Document :=
  store.entries.map Prod.snd

def size (store : MemoryStore) : Nat :=
  store.entries.length

/-- Puts a document under its identifier; one that is there already gives its place. -/
def insert (store : MemoryStore) (document : Document) : MemoryStore :=
  ⟨Json.insertMember document.id document store.entries⟩

def insertAll (store : MemoryStore) (documents : List Document) : MemoryStore :=
  documents.foldl insert store

/-- What a document needs to be stored. -/
def check (dimensions : Option Nat) (document : Document) : Except StoreError Unit :=
  match document.embedding, dimensions with
  | none, _ => .error (.missingEmbedding document.id)
  | some embedding, some expected =>
      if embedding.length = expected then .ok ()
      else .error (.dimensionMismatch expected embedding.length)
  | some _, none => .ok ()

/-- Stores one document, or nothing. -/
def push (dimensions : Option Nat) (store : MemoryStore) (document : Document) :
    Except StoreError MemoryStore := do
  check dimensions document
  return store.insert document

/-- Stores all documents, or none of them. -/
def pushBatch (dimensions : Option Nat) (store : MemoryStore) (documents : List Document) :
    Except StoreError MemoryStore := do
  documents.forM (check dimensions)
  return store.insertAll documents

def fetch (store : MemoryStore) : Option Filter → Except StoreError (List Document)
  | none => .ok store.documents
  | some _ => .error (.filteringUnsupported "memory")

/-- The store as a backend, given where it is kept. Only what succeeds is measured. -/
def backend (get : σ → MemoryStore) (put : MemoryStore → σ → σ) (dimensions : Option Nat) :
    Backend σ where
  name := "memory"
  push document := do
    let state ← Act.state
    let store ← Act.ofExcept (push dimensions (get state) document)
    Act.setState (put store state)
    Act.measure (.operation "memory" "push" Status.success 1)
  pushBatch documents := do
    let state ← Act.state
    let store ← Act.ofExcept (pushBatch dimensions (get state) documents)
    Act.setState (put store state)
    Act.measure (.operation "memory" "push_batch" Status.success documents.length)
  fetch filter := do
    let documents ← Act.ofExcept (fetch (get (← Act.state)) filter)
    Act.measure (.operation "memory" "fetch_candidates" Status.success documents.length)
    return documents

end MemoryStore

end VectorSearch
