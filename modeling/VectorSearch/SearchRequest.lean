import VectorSearch.Document
import VectorSearch.Filter.Json

namespace VectorSearch

/-- Which candidates to rank and how many to return, whatever the query vector. -/
structure Limits where
  filter : Option Filter
  topK : Nat
  threshold : Float

structure SearchRequest where
  query : String
  limits : Limits

namespace SearchRequest

/-- A filter is left out where there is none. -/
def toJson (request : SearchRequest) : Json :=
  .obj ([("query", .str request.query)] ++
    (match request.limits.filter with
      | some filter => [("filter", filter.toJson)]
      | none => []) ++
    [("top_k", .int request.limits.topK), ("similarity_threshold", .float request.limits.threshold)])

structure Draft where
  query : Option String
  filter : Option (Option Filter)
  topK : Option Nat
  threshold : Option Float

open Json Shape

def Draft.slots : List (Slot Draft) :=
  [.of ["query"] Draft.query (fun draft query => { draft with query := some query }) text,
    .of ["filter"] Draft.filter (fun draft filter => { draft with filter := some filter })
      (optional Filter.shape),
    .of ["top_k"] Draft.topK (fun draft topK => { draft with topK := some topK }) natural,
    .of ["similarity_threshold"] Draft.threshold
      (fun draft threshold => { draft with threshold := some threshold }) double]

/-- A query and a count must be given. -/
def Draft.finish (draft : Draft) : Option SearchRequest := do
  return ⟨← draft.query, ⟨draft.filter.join, ← draft.topK, draft.threshold.getD 0⟩⟩

def shape : Shape SearchRequest :=
  record Draft.slots ⟨none, none, none, none⟩ Draft.finish

end SearchRequest

end VectorSearch
