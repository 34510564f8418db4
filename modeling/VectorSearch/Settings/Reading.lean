import VectorSearch.Settings.Basic
import VectorSearch.Filter.Json

namespace VectorSearch

open Number

/-! Settings from values.

A section is an object with known names only, or an array of its settings in order. Two
sources differ in small ways: in an array of TOML items may be left over, and the empty
value that a choice may carry is spelled differently.
-/

/-- What a value was read from. -/
inductive Source where
  | toml
  | json
deriving DecidableEq, Repr

namespace Source

/-- The settings of a section by name, with no name unknown or repeated. -/
def section? (source : Source) (names : List String) : Json → Option (List (Option Json))
  | .obj members =>
      if members.all (names.contains ·.1) then Json.parts? names (.obj members) else none
  | .arr items =>
      Json.parts? names (.arr (if source = .toml then items.take names.length else items))
  | _ => none

/-- One of several names, alone or as the only key of an object that holds nothing. -/
def choice? (source : Source) (ofName? : String → Option α) : Json → Option α
  | .str name => ofName? name
  | .obj [(name, .null)] => if source = .json then ofName? name else none
  | .obj [(name, .obj [])] => if source = .toml then ofName? name else none
  | .obj [(name, .arr [])] => if source = .toml then ofName? name else none
  | _ => none

end Source

namespace Settings

/-- A setting that may be left out. -/
def orDefault (default : α) (read : Json → Option α) : Option Json → Option α
  | none => some default
  | some value => read value

def text? : Json → Option String
  | .str text => some text
  | _ => none

def flag? : Json → Option Bool
  | .bool value => some value
  | _ => none

def natural? : Json → Option Nat
  | .int n => if 0 ≤ n then some n.toNat else none
  | _ => none

def port? (value : Json) : Option Nat := do
  let port ← natural? value
  if port < 65536 then some port else none

def double? : Json → Option Float
  | .int n => some (Number.double n)
  | .float x => some x
  | _ => none

def optional? (read : Json → Option α) : Json → Option (Option α)
  | .null => some none
  | value => some <$> read value

def address? (value : Json) : Option Address := do
  Address.parse? (← text? value)

def server? (source : Source) (value : Json) : Option ServerSettings := do
  let [host, port] ← source.section? ["host", "port"] value | none
  return ⟨← orDefault defaultServer.host address? host, ← orDefault defaultServer.port port? port⟩

def payload? (source : Source) (value : Json) : Option PayloadSettings := do
  let [host, port, collection, apiKey, timeout, concurrency, dimensions] ←
    source.section? ["host", "port", "collection_name", "api_key", "timeout_secs",
      "add_concurrency", "dimensions"] value | none
  return {
    host := ← orDefault defaultPayload.host text? host
    port := ← orDefault defaultPayload.port port? port
    collection := ← orDefault defaultPayload.collection text? collection
    apiKey := ← orDefault none (optional? text?) apiKey
    timeoutSeconds := ← orDefault defaultPayload.timeoutSeconds natural? timeout
    concurrency := ← orDefault defaultPayload.concurrency natural? concurrency
    dimensions := ← orDefault none (optional? natural?) dimensions }

def memory? (source : Source) (value : Json) : Option MemorySettings := do
  let [concurrency, dimensions] ← source.section? ["add_concurrency", "dimensions"] value | none
  return ⟨← orDefault defaultMemory.concurrency natural? concurrency,
    ← orDefault none (optional? natural?) dimensions⟩

/-- The settings of a store of a named kind. They have been taken in whole by then, so no
item of an array may be left over. -/
def storeOf? (kind : String) (body : Json) : Option StoreSettings :=
  if kind = "memory" then .memory <$> memory? .json body
  else do return .payload (← PayloadLayout.ofName? kind) (← payload? .json body)

/-- A store must name its kind. -/
def store? (value : Json) : Option StoreSettings :=
  match value with
  | .obj members =>
      match members.filter (·.1 == "type") with
      | [(_, .str kind)] => storeOf? kind (.obj (members.filter (·.1 != "type")))
      | _ => none
  | .arr (.str kind :: items) => storeOf? kind (.arr items)
  | _ => none

def embedding? (source : Source) (value : Json) : Option EmbeddingSettings := do
  let [base, model, apiKey, dimensions, timeout] ←
    source.section? ["base_url", "model", "api_key", "dimensions", "timeout_secs"] value | none
  return {
    base := ← orDefault defaultEmbedding.base text? base
    model := ← orDefault defaultEmbedding.model text? model
    apiKey := ← orDefault none (optional? text?) apiKey
    dimensions := ← orDefault none (optional? natural?) dimensions
    timeoutSeconds := ← orDefault defaultEmbedding.timeoutSeconds natural? timeout }

def search? (source : Source) (value : Json) : Option SearchSettings := do
  let [topK, threshold, policy, negation] ←
    source.section? ["default_top_k", "similarity_threshold", "score_error_policy",
      "negation_style"] value | none
  return {
    topK := ← orDefault defaultSearch.topK natural? topK
    threshold := ← orDefault defaultSearch.threshold double? threshold
    policy := ← orDefault defaultSearch.policy (source.choice? ScoreErrorPolicy.ofName?) policy
    negation := ← orDefault defaultSearch.negation (source.choice? NegationStyle.ofName?) negation }

def logging? (source : Source) (value : Json) : Option LoggingSettings := do
  let [level, format, timestamps, fileLine, includeSpans, filter] ←
    source.section? ["level", "format", "timestamps", "file_line", "include_spans", "filter"] value
    | none
  return {
    level := ← orDefault defaultLogging.level (source.choice? LogLevel.ofName?) level
    format := ← orDefault defaultLogging.format (source.choice? LogFormat.ofName?) format
    timestamps := ← orDefault defaultLogging.timestamps flag? timestamps
    fileLine := ← orDefault defaultLogging.fileLine flag? fileLine
    includeSpans := ← orDefault defaultLogging.includeSpans flag? includeSpans
    filter := ← orDefault none (optional? text?) filter }

def buckets? : Json → Option (List Float)
  | .arr items => items.mapM double?
  | _ => none

def metrics? (source : Source) (value : Json) : Option MetricsSettings := do
  let [enabled, buckets] ← source.section? ["enabled", "latency_buckets_ms"] value | none
  return ⟨← orDefault defaultMetrics.enabled flag? enabled,
    ← orDefault defaultMetrics.buckets buckets? buckets⟩

def observability? (source : Source) (value : Json) : Option (LoggingSettings × MetricsSettings) := do
  let [logging, metrics] ← source.section? ["logging", "metrics"] value | none
  return (← orDefault defaultLogging (logging? source) logging,
    ← orDefault defaultMetrics (metrics? source) metrics)

/-- The settings that a value holds, each section optional. -/
def ofJson? (source : Source) (value : Json) : Option Settings := do
  let [server, store, embedding, search, observability] ←
    source.section? ["server", "store", "embedding", "search", "observability"] value | none
  let (logging, metrics) ← orDefault (defaultLogging, defaultMetrics) (observability? source) observability
  return {
    server := ← orDefault defaultServer (server? source) server
    store := ← orDefault default.store store? store
    embedding := ← orDefault defaultEmbedding (embedding? source) embedding
    search := ← orDefault defaultSearch (search? source) search
    logging
    metrics }

end Settings

end VectorSearch
