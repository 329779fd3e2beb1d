/-
Queries compiled to SQL.

A compiler knows the event table and the default metrics. It builds one
aggregate statement: the time bucket, the dimensions, the number of
events and the metrics are projected; types, range and conditions are
predicates in this order; a bucketed statement is sorted by its bucket,
one that is only broken down by the number of events, largest first.

The parts that can fail are checked in a fixed order, and the first
failure is the error: granularity, dimensions, metrics, range, conditions.
-/
import EventAnalytics.Query.Basic
import EventAnalytics.Schema.Ddl
import EventAnalytics.Sql.Select
import EventAnalytics.TimeRange

namespace EventAnalytics

open Time (Instant)

/-- Why a query cannot be compiled. -/
inductive QueryError where
  | unknownGranularity (key : String)
  | unsafePath (e : UnsafeSegment)
  | operandMismatch (c : Condition)
  | badRange (e : RangeError)
  deriving DecidableEq, Repr

/-- The report of a key that names no granularity. -/
def granularityMessage (key : String) : String :=
  "invalid granularity: " ++ key

def QueryError.message : QueryError → String
  | .unknownGranularity key => granularityMessage key
  | .unsafePath e => e.message
  | .operandMismatch c => "invalid filter: " ++ c.mismatchText
  | .badRange e => "invalid time range: " ++ e.message

def QueryError.ofCondition : ConditionError → QueryError
  | .unsafePath e => .unsafePath e
  | .operandMismatch c => .operandMismatch c

/-- The name of the column of event counts. -/
def countName : String := "count"

/-- The name of the bucket column. -/
def bucketName : String := "bucket"

/-- What a query is compiled against. -/
structure Compiler where
  table : String := defaultTable
  defaults : MetricDefaults := MetricDefaults.builtin
  deriving DecidableEq, Repr

namespace Compiler

/-- Adds the time bucket, if one is asked for. -/
def addBucket (s : Sql.Select) : Option String → Except QueryError Sql.Select
  | none => .ok s
  | some key =>
    match Granularity.ofKey? key with
    | some g => .ok (s.bucketed g Column.ts.name bucketName)
    | none => .error (.unknownGranularity key)

def addDimension (s : Sql.Select) (path : String) : Except QueryError Sql.Select :=
  match pathSql path with
  | .ok expr => .ok (s.dimension expr (Sql.identifier path))
  | .error e => .error (.unsafePath e)

/-- Adds the number of events and the metrics. -/
def addMetrics (s : Sql.Select) (names : List String) : Except QueryError Sql.Select :=
  match metricsSql names with
  | .ok exprs => .ok (exprs.foldl Sql.Select.project s)
  | .error e => .error (.unsafePath e)

/-- The condition that a type filter stands for; a filter without types
asks for nothing. -/
def typeCondition? : Option TypeFilter → Option Condition
  | none => none
  | some (.one t) => some (.eq "type" t)
  | some (.anyOf []) => none
  | some (.anyOf ts) => some (.isIn "type" ts)

def addCondition (s : Sql.Select) (c : Condition) : Except QueryError Sql.Select :=
  match c.sql with
  | .ok clause => .ok (s.filter clause)
  | .error e => .error (.ofCondition e)

/-- Adds the range of time, if one is asked for. -/
def addRange (s : Sql.Select) (now : Instant) : Option String → Except QueryError Sql.Select
  | none => .ok s
  | some text =>
    match TimeRange.ofText text now with
    | .ok r => .ok (s.filter (r.sql Column.ts.name))
    | .error e => .error (.badRange e)

/-- Sorts by the number of events when there are dimensions but no other
order. -/
def addOrder (s : Sql.Select) (q : Query) : Sql.Select :=
  if !s.isOrdered && !q.breakdownBy.isEmpty then
    s.order (Sql.identifier countName) .descending
  else s

/-- Adds the limit, cut down to the most. -/
def addLimit (s : Sql.Select) : Option Nat → Sql.Select
  | none => s
  | some n => s.limitTo (min n Query.maxLimit)

def statement (c : Compiler) (q : Query) (now : Instant) : Except QueryError Sql.Select := do
  let s ← addBucket (.ofTable c.table) q.groupBy
  let s ← q.breakdownBy.foldlM addDimension s
  let s := s.projectAs "COUNT(*)" (Sql.identifier countName)
  let s ← addMetrics s (q.resolvedMetrics c.defaults)
  let s ← (typeCondition? q.types).toList.foldlM addCondition s
  let s ← addRange s now q.timeRange
  let s ← q.filters.foldlM addCondition s
  return addLimit (addOrder s q) q.limit

/-- The SQL for a query at the moment `now`. -/
def compile (c : Compiler) (q : Query) (now : Instant) : Except QueryError String :=
  (c.statement q now).map Sql.Select.sql

end Compiler

end EventAnalytics
