import VectorSearch.Settings.Basic

namespace VectorSearch

open Text

inductive SettingsError where
  | unreadable (path reason : String)
  | malformed
  | unsetVariable (name : String)
  | invalid (reason : String)
deriving DecidableEq, Repr

namespace SettingsError

def message : SettingsError → String
  | .unreadable path reason => "Failed to read config file " ++ path ++ ": " ++ reason
  | .malformed => "Failed to parse config: the text does not have the form of the settings"
  | .unsetVariable name => "Environment variable not found: " ++ name
  | .invalid reason => "Configuration validation error: " ++ reason

end SettingsError

namespace Settings

/-- Refuses, with a reason, what does not hold. -/
def require (holds : Bool) (reason : String) : Except SettingsError Unit :=
  if holds then .ok () else .error (.invalid reason)

/-- What holds for the stores of every kind. -/
def checkStoreCommon (concurrency : Nat) (dimensions : Option Nat) : Except SettingsError Unit := do
  require (concurrency ≠ 0) "store.add_concurrency must be at least 1"
  require (dimensions ≠ some 0) "store.dimensions must be greater than 0"

def checkStore : StoreSettings → Except SettingsError Unit
  | .payload _ settings => do
      require (!allBlank settings.host) "store.host must not be empty"
      require (settings.port ≠ 0) "store.port must be greater than 0"
      require (!allBlank settings.collection) "store.collection_name must not be empty"
      require (settings.timeoutSeconds ≠ 0) "store.timeout_secs must be greater than 0"
      checkStoreCommon settings.concurrency settings.dimensions
  | .memory settings => checkStoreCommon settings.concurrency settings.dimensions

def checkEmbedding (settings : EmbeddingSettings) : Except SettingsError Unit := do
  require (!allBlank settings.model) "embedding.model must not be empty"
  require (Url.parse settings.base).isOk ("embedding.base_url is not a valid URL: " ++ settings.base)
  require (settings.dimensions ≠ some 0) "embedding.dimensions must be greater than 0"

def checkSearch (settings : SearchSettings) : Except SettingsError Unit := do
  require (settings.topK ≠ 0) "search.default_top_k must be at least 1"
  require settings.threshold.isFinite "search.similarity_threshold must be a finite number"

/-- A length that is set for both embeddings and documents must be the same. -/
def checkDimensions (store embedding : Option Nat) : Except SettingsError Unit :=
  match store, embedding with
  | some store, some embedding =>
      require (store = embedding) ("store.dimensions (" ++ toString store ++
        ") does not match embedding.dimensions (" ++ toString embedding ++ ")")
  | _, _ => .ok ()

/-- Looks for the first fault: in the store, the embedding, the search, and between them. -/
def validate (settings : Settings) : Except SettingsError Unit := do
  checkStore settings.store
  checkEmbedding settings.embedding
  checkSearch settings.search
  checkDimensions settings.store.dimensions settings.embedding.dimensions

end Settings

end VectorSearch
