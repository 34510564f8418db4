import VectorSearch.Similarity

namespace VectorSearch

/-- What is ranked: an identifier and, if there is one, an embedding. -/
structure Candidate where
  id : String
  embedding : Option Embedding

def Document.candidate (document : Document) : Candidate :=
  ⟨document.id, document.embedding⟩

structure Ranked where
  id : String
  score : Float
deriving DecidableEq

/-- What a candidate without a score does to a ranking: it fails, or goes on without it. -/
inductive ScoreErrorPolicy where
  | abort
  | skip
deriving DecidableEq, Repr

namespace ScoreErrorPolicy

def name : ScoreErrorPolicy → String
  | .abort => "abort"
  | .skip => "skip"

def ofName? : String → Option ScoreErrorPolicy
  | "abort" => some .abort
  | "skip" => some .skip
  | _ => none

end ScoreErrorPolicy

/-- The candidates that reach a threshold, with their scores and in their order. -/
def scored (policy : ScoreErrorPolicy) (query : Embedding) (threshold : Float) :
    List Candidate → Except SimilarityError (List Ranked)
  | [] => .ok []
  | candidate :: rest =>
      match Embedding.cosine (some query) candidate.embedding, policy with
      | .ok score, _ => do
          let others ← scored policy query threshold rest
          return if threshold ≤ score then ⟨candidate.id, score⟩ :: others else others
      | .error _, .skip => scored policy query threshold rest
      | .error reason, .abort => .error reason

/-- How two doubles compare; one that is not a number compares with none. -/
def compareScores (x y : Float) : Option Ordering :=
  if x ≤ y then if y ≤ x then some .eq else some .lt
  else if y ≤ x then some .gt
  else none

/-- Better scores come first; scores that do not compare count as equal. -/
def Ranked.precedes (a b : Ranked) : Bool :=
  ((compareScores b.score a.score).getD .eq).isLE

/-- The best candidates first, at most `topK` of them; equal scores keep their order. -/
def rank (policy : ScoreErrorPolicy) (query : Embedding) (candidates : List Candidate)
    (threshold : Float) (topK : Nat) : Except SimilarityError (List Ranked) := do
  let survivors ← scored policy query threshold candidates
  return (survivors.mergeSort Ranked.precedes).take topK

end VectorSearch
