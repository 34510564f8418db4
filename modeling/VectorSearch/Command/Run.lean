import VectorSearch.Command.Help
import VectorSearch.Deployment
import VectorSearch.Settings.Loading

namespace VectorSearch

/-- What a run takes from the computer it is on: environment variables, and the texts of
files or why they cannot be read. -/
structure Computer where
  lookup : String → Option String
  readText : String → Except String String

inductive Outcome (σ : Type) where
  /-- All went well; the lines are its result. -/
  | done (lines : List String)
  /-- The run failed; the lines say why, unless the log does. -/
  | failed (complaints : List String)
  /-- Requests are to be answered at an address from now on. -/
  | listen (server : ServerSettings) (service : Api.Service (Deployment σ))

namespace Outcome

def exitCode : Outcome σ → Nat
  | .failed _ => 1
  | _ => 0

end Outcome

def Ending.exitCode : Ending → Nat
  | .usage => 2
  | _ => 0

def versionLine : String :=
  "similake-client " ++ Api.version

/-- The parts that the program was built with. -/
def features : List String := ["cli", "server", "native-http", "prometheus"]

def featureLines : List String :=
  ["Similake client v" ++ Api.version, "", "Compile-time features:"] ++
    features.map fun name => "    " ++ Command.padded 32 name ++ " enabled"

namespace Command

/-- The settings in a file, or the defaults where there is none. -/
def loadSettings (computer : Computer) : Option String → Except String Settings
  | none => .ok .default
  | some path =>
      let result : Except SettingsError Settings :=
        match computer.readText path with
        | .error reason => .error (.unreadable path reason)
        | .ok text => Settings.ofText computer.lookup text
      result.mapError fun error => "Failed to load config from " ++ path ++ ": " ++ error.message

def parseFilter (text : String) : Except String Filter :=
  (Filter.parse text).mapError fun _ => "Invalid filter expression: it does not have the form of one"

/-- The query string that a filter is sent as. -/
def compileFilter (settings : Settings) (expression : String) : Except String String := do
  let filter ← parseFilter expression
  (filter.compile settings.search.negation).mapError fun error => "Error: " ++ error.message

def readDocuments (computer : Computer) (path : String) : Except String (List Document.Draft) :=
  let result : Except String (List Document.Draft) :=
    match computer.readText path with
    | .error reason => .error reason
    | .ok text =>
        (Json.readWith (Json.Shape.list Document.Draft.shape) text).mapError fun _ =>
          "the text is no list of documents"
  result.mapError fun reason => "Failed to read documents from " ++ path ++ ": " ++ reason

/-- What is searched for, options that are left out taken from the settings. -/
def searchRequest (settings : Settings) (query : String) (condition : Option String)
    (topK : Option Nat) (threshold : Option Float) : Except String SearchRequest := do
  let filter ← match condition with
    | none => pure none
    | some text => some <$> parseFilter text
  return ⟨query, ⟨filter, topK.getD settings.search.topK, threshold.getD settings.search.threshold⟩⟩

/-- The lines of an activity's result; its failure is logged. -/
def report (act : Act σ StoreError (List String)) : StateM (World σ) (Outcome τ) := do
  match ← act.run with
  | .ok lines => return .done lines
  | .error _ => return .failed []

def addTo (collection : Collection σ) (concurrency : Nat) (drafts : List Document.Draft) :
    Act σ StoreError (List String) := do
  let count ← collection.load concurrency (← Act.complete drafts)
  return ["Added " ++ toString count ++ " documents"]

/-- Searches a collection, a line for each hit. -/
def searchIn (collection : Collection σ) (request : SearchRequest) :
    Act σ StoreError (List String) := do
  return (← collection.search request).map fun hit => (Api.hitJson hit).print

/-- Goes on with the collection of the settings, if there is one. -/
def withCollection (settings : Settings) (network : Http.Network σ)
    (next : Collection (Deployment σ) → StateM (World (Deployment σ)) (Outcome σ)) :
    StateM (World (Deployment σ)) (Outcome σ) :=
  match settings.collection network with
  | .ok collection => next collection
  | .error _ => pure (.failed [])

def run (computer : Computer) (network : Http.Network σ) (settings : Settings) (command : Command) :
    StateM (World (Deployment σ)) (Outcome σ) :=
  match command with
  | .features => pure (.done featureLines)
  | .filter expression =>
      match compileFilter settings expression with
      | .ok query => pure (.done [query])
      | .error complaint => pure (.failed [complaint])
  | .add file =>
      match readDocuments computer file with
      | .error complaint => pure (.failed [complaint])
      | .ok drafts => withCollection settings network fun collection =>
          report (addTo collection settings.store.concurrency drafts)
  | .search query condition topK threshold =>
      match searchRequest settings query condition topK threshold with
      | .error complaint => pure (.failed [complaint])
      | .ok request => withCollection settings network fun collection => report (searchIn collection request)
  | .serve => withCollection settings network fun collection =>
      pure (.listen settings.server (settings.service collection))

/-- Asks for nothing but what is built in. -/
def needsSettings : Command → Bool
  | .features => false
  | _ => true

end Command

namespace Invocation

/-- Loads the settings that a command needs, then does what it says. -/
def run (invocation : Invocation) (computer : Computer) (network : Http.Network σ) :
    StateM (World (Deployment σ)) (Outcome σ) :=
  let file := if invocation.command.needsSettings then invocation.settings else none
  match Command.loadSettings computer file with
  | .error complaint => pure (.failed [complaint])
  | .ok settings => invocation.command.run computer network settings

end Invocation

end VectorSearch
