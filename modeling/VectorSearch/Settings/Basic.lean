import VectorSearch.Ranking
import VectorSearch.Store.Payload
import VectorSearch.Url.Address

namespace VectorSearch

structure ServerSettings where
  host : Address
  port : Nat
deriving DecidableEq, Repr

structure PayloadSettings where
  host : String
  port : Nat
  collection : String
  apiKey : Option String
  timeoutSeconds : Nat
  concurrency : Nat
  dimensions : Option Nat
deriving DecidableEq, Repr

structure MemorySettings where
  concurrency : Nat
  dimensions : Option Nat
deriving DecidableEq, Repr

inductive StoreSettings where
  | payload (layout : PayloadLayout) (settings : PayloadSettings)
  | memory (settings : MemorySettings)
deriving DecidableEq, Repr

structure EmbeddingSettings where
  base : String
  model : String
  apiKey : Option String
  dimensions : Option Nat
  timeoutSeconds : Nat
deriving DecidableEq, Repr

/-- What a search uses where a request leaves it open, and how it ranks and filters. -/
structure SearchSettings where
  topK : Nat
  threshold : Float
  policy : ScoreErrorPolicy
  negation : NegationStyle
deriving DecidableEq

inductive LogLevel where
  | trace
  | debug
  | info
  | warn
  | error
deriving DecidableEq, Repr

inductive LogFormat where
  | pretty
  | compact
  | json
deriving DecidableEq, Repr

structure LoggingSettings where
  level : LogLevel
  format : LogFormat
  timestamps : Bool
  fileLine : Bool
  includeSpans : Bool
  filter : Option String
deriving DecidableEq, Repr

/-- Latency buckets are in milliseconds. -/
structure MetricsSettings where
  enabled : Bool
  buckets : List Float
deriving DecidableEq

structure Settings where
  server : ServerSettings
  store : StoreSettings
  embedding : EmbeddingSettings
  search : SearchSettings
  logging : LoggingSettings
  metrics : MetricsSettings
deriving DecidableEq

namespace LogLevel

def all : List LogLevel := [.trace, .debug, .info, .warn, .error]

def name : LogLevel → String
  | .trace => "trace"
  | .debug => "debug"
  | .info => "info"
  | .warn => "warn"
  | .error => "error"

def ofName? (name : String) : Option LogLevel :=
  all.find? (·.name == name)

end LogLevel

namespace LogFormat

def name : LogFormat → String
  | .pretty => "pretty"
  | .compact => "compact"
  | .json => "json"

def ofName? : String → Option LogFormat
  | "pretty" => some .pretty
  | "compact" => some .compact
  | "json" => some .json
  | _ => none

end LogFormat

namespace StoreSettings

def backendName : StoreSettings → String
  | .payload layout _ => layout.name
  | .memory _ => "memory"

/-- The length that all embeddings must have, if one is set. -/
def dimensions : StoreSettings → Option Nat
  | .payload _ settings => settings.dimensions
  | .memory settings => settings.dimensions

/-- How many documents may be embedded and pushed at once. -/
def concurrency : StoreSettings → Nat
  | .payload _ settings => settings.concurrency
  | .memory settings => settings.concurrency

end StoreSettings

def PayloadSettings.base (settings : PayloadSettings) : String :=
  "http://" ++ settings.host ++ ":" ++ toString settings.port

namespace Settings

def defaultServer : ServerSettings := ⟨.v4 [127, 0, 0, 1], 8080⟩

def defaultPayload : PayloadSettings := ⟨"localhost", 6767, "vector_store", none, 30, 4, none⟩

def defaultMemory : MemorySettings := ⟨4, none⟩

def defaultEmbedding : EmbeddingSettings :=
  ⟨"https://api.openai.com/v1", "text-embedding-3-small", none, none, 30⟩

def defaultSearch : SearchSettings := ⟨4, 0, .abort, .legacy⟩

def defaultLogging : LoggingSettings := ⟨.info, .compact, true, false, true, none⟩

def defaultMetrics : MetricsSettings :=
  ⟨false, [5, 10, 25, 50, 100, 250, 500, 1000, 2500, 5000]⟩

/-- The settings of an empty text. -/
def default : Settings where
  server := defaultServer
  store := .payload .root defaultPayload
  embedding := defaultEmbedding
  search := defaultSearch
  logging := defaultLogging
  metrics := defaultMetrics

end Settings

end VectorSearch
