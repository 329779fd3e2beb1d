/-
Metrics: sums of payload fields, and which of them a query shows when it
names none.

A metric is a dotted name inside the payload. Its projection sums the
field over a group; a value that is no number counts as nothing.

The default metrics come from a table of rows, each the beginning of an
event type and a list of metrics. The first row in table order that
begins any of the requested types decides; the order of the types does
not matter, nor does the length of the match. With no matching row, or no
type at all, a fallback list applies.
-/
import EventAnalytics.FieldRef

namespace EventAnalytics

/-- The projection that sums one metric. -/
def metricSql (name : String) : Except UnsafeSegment String :=
  (Pointer.along name (pathSegments name)).map fun p =>
    "SUM(TRY_CAST(" ++ FieldRef.extraction .payload p ++ " AS DOUBLE)) AS \""
      ++ name ++ "\""

/-- The projections of several metrics, in order and with repetitions. -/
def metricsSql (names : List String) : Except UnsafeSegment (List String) :=
  names.mapM metricSql

/-- The event types a query asks for. -/
inductive TypeFilter where
  | one (type : String)
  | anyOf (types : List String)
  deriving DecidableEq, Repr

namespace TypeFilter

/-- The types, in the caller's order. -/
def types : TypeFilter → List String
  | one t => [t]
  | anyOf ts => ts

/-- Whether the filter names no type. -/
def isEmpty (f : TypeFilter) : Bool :=
  f.types.isEmpty

end TypeFilter

/-- A row of the metric table: the metrics of all types that begin so. -/
structure MetricRow where
  start : String
  metrics : List String
  deriving DecidableEq, Repr

/-- Whether the row speaks of an event type. -/
def MetricRow.matchesType (r : MetricRow) (t : String) : Bool :=
  r.start.toList.isPrefixOf t.toList

structure MetricDefaults where
  rows : List MetricRow
  fallback : List String
  deriving DecidableEq, Repr

namespace MetricDefaults

/-- The rows used when nothing else is configured. -/
def builtinRows : List MetricRow :=
  [⟨"llm.", ["totalTokens", "totalCost", "durationMs", "inputTokens", "outputTokens"]⟩,
    ⟨"embeddings.", ["totalTokens", "totalCost", "durationMs", "inputCount"]⟩,
    ⟨"vectorstore.", ["durationMs", "resultCount", "totalCost"]⟩,
    ⟨"cache.", ["hits", "misses", "durationMs"]⟩,
    ⟨"storage.", ["bytesRead", "bytesWritten", "durationMs"]⟩]

/-- The metrics used when no row matches and nothing else is configured. -/
def builtinFallback : List String :=
  ["totalCost", "totalTokens", "durationMs"]

/-- The table used when nothing else is configured. -/
def builtin : MetricDefaults :=
  ⟨builtinRows, builtinFallback⟩

/-- The metrics shown for a list of event types. -/
def forTypeList (d : MetricDefaults) (types : List String) : List String :=
  match d.rows.find? fun r => types.any r.matchesType with
  | some r => r.metrics
  | none => d.fallback

def forTypes (d : MetricDefaults) (filter : Option TypeFilter) : List String :=
  match filter with
  | none => d.fallback
  | some f => d.forTypeList f.types

end MetricDefaults

end EventAnalytics
