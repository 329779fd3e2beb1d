/-
Settings of the query compiler: the event table and the default metrics.

The table must be a plain identifier, since it goes into statements as it
stands, and every metric must be a name that a projection can be built
from. The rows of a custom table of default metrics have distinct,
non-empty beginnings and at least one metric each; without a custom table
the built-in one applies. Of several faults the first in a fixed order is
reported: the table, the fallback metrics, then the rows one by one.
-/
import EventAnalytics.Metric
import EventAnalytics.Schema.Ddl
import EventAnalytics.Text.Numeral
import EventAnalytics.Toml.Record

namespace EventAnalytics

/-- The settings of the query compiler. -/
structure AnalyticsSettings where
  table : String := defaultTable
  fallback : List String := MetricDefaults.builtinFallback
  rows : Option (List MetricRow) := none
  deriving DecidableEq, Repr

/-- What is wrong with settings of the query compiler. -/
inductive AnalyticsFault where
  | badTable (table : String)
  | noFallback
  | unsafeFallback (metric : String)
  | emptyStart
  | repeatedStart (start : String)
  | noMetrics (start : String)
  | unsafeMetric (metric : String)
  deriving DecidableEq, Repr

namespace AnalyticsFault

/-- The report of a setting with a value that it may not have. -/
def invalid (field reason : String) : String :=
  "analytics has invalid " ++ field ++ ": " ++ reason

def message : AnalyticsFault → String
  | .badTable t => invalid "table" ("'" ++ t ++ "' is not a plain identifier")
  | .noFallback => invalid "fallback_metrics" "must list at least one metric"
  | .unsafeFallback m => invalid "fallback_metrics" ("unsafe metric name '" ++ m ++ "'")
  | .emptyStart => invalid "metric_defaults.prefix" "must not be empty"
  | .repeatedStart p => "metric default prefix '" ++ p ++ "' is listed more than once"
  | .noMetrics p =>
    invalid "metric_defaults.metrics" ("prefix '" ++ p ++ "' lists no metrics")
  | .unsafeMetric m =>
    invalid "metric_defaults.metrics" ("unsafe metric name '" ++ m ++ "'")

end AnalyticsFault

/-- Whether a character may start a plain identifier. -/
def isIdentifierStart (c : Char) : Bool := Text.isLetter c || c == '_'

/-- Whether a character may stand in a plain identifier. -/
def isIdentifierChar (c : Char) : Bool := isIdentifierStart c || Text.isDigit c

/-- Whether a text is a plain identifier: ASCII letters, digits and `_`, of
which no digit comes first. -/
def isPlainIdentifier (s : String) : Bool :=
  match s.toList with
  | c :: r => isIdentifierStart c && r.all isIdentifierChar
  | [] => false

/-- Whether a projection can be built from a metric's name. -/
def isSafeMetric (name : String) : Bool := (pathSegments name).all isSafeSegment

namespace AnalyticsSettings

/-- The first metric that no projection can be built from. -/
def firstUnsafe? (metrics : List String) : Option String :=
  metrics.find? fun m => !isSafeMetric m

/-- The first fault of a row, given the beginnings of the rows before it. -/
def rowFault? (seen : List String) (row : MetricRow) : Option AnalyticsFault :=
  if row.start = "" then some .emptyStart
  else if row.start ∈ seen then some (.repeatedStart row.start)
  else if row.metrics = [] then some (.noMetrics row.start)
  else (firstUnsafe? row.metrics).map .unsafeMetric

/-- The first fault of some rows, given the beginnings of the rows before
them. -/
def rowsFault? (seen : List String) : List MetricRow → Option AnalyticsFault
  | [] => none
  | row :: rows =>
    match rowFault? seen row with
    | some f => some f
    | none => rowsFault? (row.start :: seen) rows

def fallbackFault? (metrics : List String) : Option AnalyticsFault :=
  if metrics = [] then some .noFallback
  else (firstUnsafe? metrics).map .unsafeFallback

/-- The first fault of the settings. -/
def fault? (s : AnalyticsSettings) : Option AnalyticsFault :=
  if !isPlainIdentifier s.table then some (.badTable s.table)
  else match fallbackFault? s.fallback with
    | some f => some f
    | none =>
      match s.rows with
      | some rows => rowsFault? [] rows
      | none => none

/-- The table of default metrics that the settings describe. -/
def metricDefaults (s : AnalyticsSettings) : MetricDefaults :=
  ⟨s.rows.getD MetricDefaults.builtinRows, s.fallback⟩

/-- A row of default metrics in a settings document. -/
def decodeRow? (v : Toml) : Option MetricRow :=
  match v.record? ["prefix", "metrics"] with
  | some [start, metrics] => do
    let start ← Toml.required Toml.text? start
    let metrics ← Toml.required Toml.texts? metrics
    return ⟨start, metrics⟩
  | _ => none

/-- Settings of the query compiler in a settings document. -/
def decode? (v : Toml) : Option AnalyticsSettings :=
  match v.record? ["table", "fallback_metrics", "metric_defaults"] with
  | some [table, fallback, rows] => do
    let table ← Toml.fieldOr defaultTable Toml.text? table
    let fallback ← Toml.fieldOr MetricDefaults.builtinFallback Toml.texts? fallback
    let rows ← Toml.fieldOr none (fun v => (v.list? decodeRow?).map some) rows
    return ⟨table, fallback, rows⟩
  | _ => none

end AnalyticsSettings

end EventAnalytics
