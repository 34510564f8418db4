import VectorSearch.Http.Message

namespace VectorSearch.Http

/-! Networks with a script: what is received is written down beforehand.

Requests are answered in turn. When the script has run out, nothing is received any more,
and the first request that this happens to is kept.
-/

structure Script where
  answers : List (Option Response)
  unanswered : Option Request
deriving DecidableEq, Repr

namespace Script

def ofAnswers (answers : List (Option Response)) : Script :=
  ⟨answers, none⟩

def network : Network Script where
  send request script :=
    match script.answers with
    | answer :: rest => (answer, { script with answers := rest })
    | [] => (none, { script with unanswered := script.unanswered.or (some request) })

end Script

end VectorSearch.Http
