import VectorSearch.Activity
import VectorSearch.Settings.Basic

namespace VectorSearch.Metrics

open Number

/-! What has been measured, as text for a monitoring system.

Counters carry the number of measures, summaries also their sum, and histograms the number
per bucket. How long anything took is not part of a measure; histograms of durations count
every measure as having taken no time.
-/

/-- Names and values that tell series of one metric apart. -/
abbrev Labels := List (String × String)

/-- What one measure adds to one series. -/
inductive Sample where
  | count (metric : String) (labels : Labels)
  | amount (metric : String) (labels : Labels) (value : Nat)
  | duration (metric : String) (labels : Labels)

def samples : Measure → List Sample
  | .operation backend operation status items =>
      let labels := [("backend", backend), ("operation", operation)]
      [.count "similake_store_operations_total" (labels ++ [("status", status)]),
        .duration "similake_store_operation_duration_seconds" labels,
        .amount "similake_store_operation_items" labels items]
  | .embedding model status =>
      [.count "similake_embedding_requests_total" [("model", model), ("status", status)],
        .duration "similake_embedding_duration_seconds" [("model", model)]]
  | .ranking candidates returned =>
      [.amount "similake_ranking_candidates" [] candidates,
        .amount "similake_ranking_results" [] returned]

inductive SeriesKind where
  | counter
  | summary
  | histogram
deriving DecidableEq, Repr

/-- All measures of one metric with the same labels. -/
structure Series where
  kind : SeriesKind
  metric : String
  labels : Labels
  count : Nat
  sum : Nat
deriving DecidableEq, Repr

def Sample.start : Sample → Series
  | .count metric labels => ⟨.counter, metric, labels, 1, 1⟩
  | .amount metric labels value => ⟨.summary, metric, labels, 1, value⟩
  | .duration metric labels => ⟨.histogram, metric, labels, 1, 0⟩

/-- Adds a sample to its series, or a new series at the end. -/
def collect (all : List Series) (sample : Sample) : List Series :=
  let start := sample.start
  match all with
  | [] => [start]
  | series :: rest =>
      if series.metric = start.metric ∧ series.labels = start.labels then
        { series with count := series.count + 1, sum := series.sum + start.sum } :: rest
      else series :: collect rest sample

/-- The series of measures, given in the order in which they were taken. -/
def series (measures : List Measure) : List Series :=
  (measures.flatMap samples).foldl collect []

/-- Line breaks, quotes and backslashes of a label value are escaped; a backslash that
stands before a quote or a backslash counts as an escape already. While `held`, such a
backslash waits for what follows it. -/
def escapeLabel (held : Bool) : List Char → List Char
  | [] => if held then ['\\', '\\'] else []
  | '\n' :: rest => '\\' :: 'n' :: escapeLabel held rest
  | '"' :: rest => '\\' :: '"' :: escapeLabel false rest
  | '\\' :: rest => (if held then ['\\', '\\'] else []) ++ escapeLabel (!held) rest
  | c :: rest => (if held then ['\\', '\\'] else []) ++ c :: escapeLabel false rest

def labelText (label : String × String) : String :=
  label.1 ++ "=\"" ++ String.ofList (escapeLabel false label.2.toList) ++ "\""

def line (name : String) (labels : Labels) (value : String) : String :=
  name ++
    (if labels.isEmpty then ""
      else "\x7b" ++ String.intercalate "," (labels.map labelText) ++ "\x7d") ++
    " " ++ value

/-- The upper bounds of buckets in seconds, as they are written. -/
def boundTexts (settings : MetricsSettings) : List (Float × String) :=
  settings.buckets.map fun milliseconds => (milliseconds / 1000, plainText (milliseconds / 1000))

def Series.lines (settings : MetricsSettings) (series : Series) : List String :=
  let count := toString series.count
  let total := [line (series.metric ++ "_sum") series.labels (toString series.sum),
    line (series.metric ++ "_count") series.labels count]
  match series.kind with
  | .counter => [line series.metric series.labels count]
  | .summary => total
  | .histogram =>
      let bucket (bound value : String) :=
        line (series.metric ++ "_bucket") (series.labels ++ [("le", bound)]) value
      (boundTexts settings).map (fun (bound, text) => bucket text (if 0 ≤ bound then count else "0")) ++
        bucket "+Inf" count :: total

/-- The text for measures in the order in which they were taken. -/
def exposition (settings : MetricsSettings) (measures : List Measure) : String :=
  String.join (((series measures).flatMap (Series.lines settings)).map (· ++ "\n"))

inductive SetupError where
  | noBuckets
  | alreadyInstalled
deriving DecidableEq, Repr

/-- Sets measuring up, where it is enabled, once. -/
def install (settings : MetricsSettings) (installed : Option MetricsSettings) :
    Except SetupError (Option MetricsSettings) :=
  if !settings.enabled then .ok installed
  else if settings.buckets.isEmpty then .error .noBuckets
  else if installed.isSome then .error .alreadyInstalled
  else .ok (some settings)

end VectorSearch.Metrics
