import VectorSearch.Settings.Environment
import VectorSearch.Settings.Reading
import VectorSearch.Settings.Validation
import VectorSearch.Toml.Reader

namespace VectorSearch.Settings

/-- The settings of a text: references first, then the form, then what must hold. -/
def ofText (lookup : String → Option String) (text : String) : Except SettingsError Settings :=
  match expand lookup text with
  | .error name => .error (.unsetVariable name)
  | .ok expanded =>
      match (Toml.parse? expanded).bind (ofJson? .toml) with
      | none => .error .malformed
      | some settings =>
          match settings.validate with
          | .error reason => .error reason
          | .ok () => .ok settings

def optionJson (write : α → Json) : Option α → Json
  | none => .null
  | some value => write value

def naturalJson (n : Nat) : Json := .int n

def storeJson : StoreSettings → Json
  | .payload layout settings =>
      .obj [("type", .str layout.name), ("host", .str settings.host),
        ("port", naturalJson settings.port), ("collection_name", .str settings.collection),
        ("api_key", optionJson .str settings.apiKey),
        ("timeout_secs", naturalJson settings.timeoutSeconds),
        ("add_concurrency", naturalJson settings.concurrency),
        ("dimensions", optionJson naturalJson settings.dimensions)]
  | .memory settings =>
      .obj [("type", .str "memory"), ("add_concurrency", naturalJson settings.concurrency),
        ("dimensions", optionJson naturalJson settings.dimensions)]

def embeddingJson (settings : EmbeddingSettings) : Json :=
  .obj [("base_url", .str settings.base), ("model", .str settings.model),
    ("api_key", optionJson .str settings.apiKey),
    ("dimensions", optionJson naturalJson settings.dimensions),
    ("timeout_secs", naturalJson settings.timeoutSeconds)]

def searchJson (settings : SearchSettings) : Json :=
  .obj [("default_top_k", naturalJson settings.topK),
    ("similarity_threshold", .float settings.threshold),
    ("score_error_policy", .str settings.policy.name),
    ("negation_style", .str settings.negation.name)]

def loggingJson (settings : LoggingSettings) : Json :=
  .obj [("level", .str settings.level.name), ("format", .str settings.format.name),
    ("timestamps", .bool settings.timestamps), ("file_line", .bool settings.fileLine),
    ("include_spans", .bool settings.includeSpans), ("filter", optionJson .str settings.filter)]

def metricsJson (settings : MetricsSettings) : Json :=
  .obj [("enabled", .bool settings.enabled), ("latency_buckets_ms", .arr (settings.buckets.map .float))]

/-- All settings, absent ones as `null`. -/
def toJson (settings : Settings) : Json :=
  .obj [("server", .obj [("host", .str settings.server.host.text),
      ("port", naturalJson settings.server.port)]),
    ("store", storeJson settings.store),
    ("embedding", embeddingJson settings.embedding),
    ("search", searchJson settings.search),
    ("observability", .obj [("logging", loggingJson settings.logging),
      ("metrics", metricsJson settings.metrics)])]

end VectorSearch.Settings
