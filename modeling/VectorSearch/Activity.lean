import VectorSearch.Http.Message
import VectorSearch.Store.Failure

namespace VectorSearch

/-! Activities: computations over a world that may fail.

A world is the state that backends, embedders and networks share, the source of fresh
identifiers, and a record of what has been asked of them and measured so far. A failure
keeps the world that it left.
-/

/-- What is asked of an embedder or a backend. -/
inductive Call where
  | embed (text : String)
  | push (document : Document)
  | pushBatch (documents : List Document)
  | fetch (filter : Option Filter)

/-- What is measured, with the status it ended in. -/
inductive Measure where
  | operation (backend operation status : String) (items : Nat)
  | embedding (model status : String)
  | ranking (candidates returned : Nat)
deriving DecidableEq, Repr

namespace Status

def success : String := "success"

def failure : String := "error"

def of (succeeded : Bool) : String :=
  if succeeded then success else failure

end Status

/-- The records hold the latest entry first. -/
structure World (σ : Type) where
  state : σ
  ids : IdSource
  calls : List Call
  handed : List Http.Request
  measured : List Measure

/-- A world in which nothing has happened yet. -/
def World.start (state : σ) (ids : IdSource) : World σ :=
  ⟨state, ids, [], [], []⟩

abbrev Act (σ ε : Type) := ExceptT ε (StateM (World σ))

namespace Act

def fail (reason : ε) : Act σ ε α :=
  throw reason

def ofExcept (result : Except ε α) : Act σ ε α :=
  ExceptT.mk (pure result)

/-- An activity whose failures are causes of other failures. -/
def mapError (wrap : ε → φ) (act : Act σ ε α) : Act σ φ α :=
  ExceptT.mk do return (← act.run).mapError wrap

def state : Act σ ε σ := do
  return (← get).state

def setState (state : σ) : Act σ ε Unit :=
  modify fun world => { world with state }

/-- Puts an activity on record as one call, whatever it puts there itself. -/
def asCall (call : Call) (act : Act σ ε α) : Act σ ε α :=
  ExceptT.mk do
    let before ← get
    let result ← act.run
    modify fun after => { after with calls := call :: before.calls }
    return result

def record (call : Call) : Act σ ε Unit :=
  asCall call (pure ())

def measure (measure : Measure) : Act σ ε Unit :=
  modify fun world => { world with measured := measure :: world.measured }

/-- Gives the documents of drafts fresh identifiers where they need them. -/
def complete (drafts : List Document.Draft) : Act σ ε (List Document) := do
  let world ← get
  let (documents, ids) := Document.Draft.completeAll world.ids drafts
  set { world with ids }
  return documents

/-- Works on items in order, on at most `width` of them at a time. No work waits for another, so
what has been under way longest is done in one go, before anything behind it has begun; a failure
leaves the rest undone. -/
def buffered (width : Nat) (work : α → Act σ ε β) (underWay waiting : List α) :
    Act σ ε (List β) :=
  let room := width - underWay.length
  match _taken : underWay ++ waiting.take room with
  | [] => pure []
  | item :: others => do
      let result ← work item
      return result :: (← buffered width work others (waiting.drop room))
termination_by underWay.length + waiting.length
decreasing_by
  have size := congrArg List.length _taken
  simp only [List.length_append, List.length_take, List.length_cons] at size
  simp only [List.length_drop]
  omega

/-- Hands a request to a network. One that cannot be put on the wire gets no response and
leaves the network alone. -/
def exchange (network : Http.Network σ) (request : Http.Request) :
    Act σ ε (Option Http.Response) := do
  let world ← get
  if request.isSendable then
    let (response, state) := network.send request world.state
    set { world with state, handed := request :: world.handed }
    return response
  else
    set { world with handed := request :: world.handed }
    return none

end Act

end VectorSearch
