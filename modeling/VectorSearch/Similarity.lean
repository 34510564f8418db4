import VectorSearch.Document
import VectorSearch.Number.Binary

namespace VectorSearch

open Number

/-! Cosine similarity.

Products are added up in single precision, in the order of the entries; the quotient is
taken in double precision.
-/

/-- Why two embeddings have no cosine. -/
inductive SimilarityError where
  | dimensionMismatch (left right : Nat)
  | nullVector
  | zeroNorm
deriving DecidableEq, Repr

namespace SimilarityError

def message : SimilarityError → String
  | .dimensionMismatch left right =>
      "Vector dimension mismatch: " ++ toString left ++ " vs " ++ toString right
  | .nullVector => "Vectors must not be null"
  | .zeroNorm => "Vectors cannot have zero norm"

end SimilarityError

namespace Embedding

/-- The sum of products of two vectors, as far as the shorter one goes; without any it is the
negative zero, which leaves every summand as it is. -/
def dot (x y : Embedding) : Float32 :=
  (List.zipWith (· * ·) x y).foldl (· + ·) (-0)

/-- The product of two vectors of one length. -/
def product (x y : Embedding) : Except SimilarityError Float32 :=
  if x.length = y.length then .ok (dot x y) else .error (.dimensionMismatch x.length y.length)

def squaredNorm (x : Embedding) : Float32 :=
  dot x x

/-- The cosine of two embeddings, either of which may be missing. -/
def cosine (x y : Option Embedding) : Except SimilarityError Float :=
  match x, y with
  | some x, some y => do
      let product ← product x y
      if squaredNorm x == 0 || squaredNorm y == 0 then .error .zeroNorm
      else
        .ok (widen product / ((widen (squaredNorm x)).sqrt * (widen (squaredNorm y)).sqrt))
  | _, _ => .error .nullVector

end Embedding

end VectorSearch
