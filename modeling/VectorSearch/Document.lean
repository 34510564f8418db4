import VectorSearch.Identifier
import VectorSearch.Json.Shape

namespace VectorSearch

abbrev Embedding := List Float32

structure Document where
  id : String
  content : String
  metadata : List (String × Json)
  embedding : Option Embedding

namespace Document

def withMetadata (document : Document) (key : String) (value : Json) : Document :=
  { document with metadata := Json.insertMember key value document.metadata }

def withEmbedding (document : Document) (embedding : Embedding) : Document :=
  { document with embedding := some embedding }

/-- A missing embedding is left out. -/
def toJson (document : Document) : Json :=
  .obj ([("id", .str document.id), ("content", .str document.content),
      ("metadata", .obj document.metadata)] ++
    match document.embedding with
    | some embedding => [("embedding", .arr (embedding.map .single))]
    | none => [])

/-- A document as it is read, any part of which may be absent. An embedding may also be
given as `null`. -/
structure Draft where
  id : Option String
  content : Option String
  metadata : Option (List (String × Json))
  embedding : Option (Option Embedding)

namespace Draft

def empty : Draft := ⟨none, none, none, none⟩

open Json Shape

/-- The parts of a document in order; its content goes by two names. -/
def slots : List (Slot Draft) :=
  [.of ["id"] Draft.id (fun draft id => { draft with id := some id }) text,
    .of ["content", "text"] Draft.content (fun draft content => { draft with content := some content }) text,
    .of ["metadata"] Draft.metadata (fun draft metadata => { draft with metadata := some metadata }) table,
    .of ["embedding"] Draft.embedding (fun draft embedding => { draft with embedding := some embedding })
      (optional (list single))]

def shape : Shape Draft :=
  record slots empty some

/-- The document of a draft, under a fresh identifier where it names none. -/
def complete (draft : Draft) (fresh : String) : Document where
  id := draft.id.getD fresh
  content := draft.content.getD ""
  metadata := draft.metadata.getD []
  embedding := draft.embedding.join

def completeAll (ids : IdSource) : List Draft → List Document × IdSource
  | [] => ([], ids)
  | draft :: rest =>
      match draft.id with
      | some id =>
          let (documents, ids) := completeAll ids rest
          (draft.complete id :: documents, ids)
      | none =>
          let (fresh, ids) := ids.next
          let (documents, ids) := completeAll ids rest
          (draft.complete fresh :: documents, ids)

end Draft

end Document

end VectorSearch
