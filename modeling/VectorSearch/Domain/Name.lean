import VectorSearch.Domain.Direction
import VectorSearch.Domain.Label

namespace VectorSearch.Domain

open Text

def labels? (name : List Char) : Option (List (List Char)) := do
  let composed := compose (← map? name)
  if composed.any isForbidden then none else (composed.splitOn '.').mapM read?

/-- Labels each of which is fit, and keeps its direction where there are several. -/
def areFit (labels : List (List Char)) : Bool :=
  labels.all isFit && (!labels.any (·.any runsRightToLeft) || labels.all keepsDirection)

/-- A domain name in ASCII, unless it is none. -/
def toAscii? (name : List Char) : Option (List Char) := do
  let labels ← labels? name
  if areFit labels then some (['.'].intercalate (labels.map spell)) else none

end VectorSearch.Domain
