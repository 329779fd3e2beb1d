/-
Analytics queries: what a caller asks for, before any of it is checked.

A query may name event types, a range of time, conditions, a time bucket,
dimensions to break down by, metrics and a limit. Paths, names and the
range are kept as the caller wrote them.

As JSON a query is a closed record, so a misspelled field is refused; the
event types may stand under `types` or `type`, and a condition's operator
under `operator` or `op`. A field that says nothing is left out when a
query is shown.
-/
import EventAnalytics.Condition
import EventAnalytics.Json.Layout
import EventAnalytics.Json.Record
import EventAnalytics.Metric

namespace EventAnalytics

open Json (Place)

-- ======================================================== conditions

/-- An operator in JSON, by its canonical name. -/
def Operator.decode? (p : Place) : Option Operator :=
  p.choice?.bind ofName?

def Operand.decode? (p : Place) : Option Operand :=
  match p.node with
  | .null => some .absent
  | .string s => s.map .single
  | _ => p.texts?.map .list

def Operand.jsonText : Operand → String
  | absent => Json.null.text
  | single s => (Json.string s).text
  | list ss => Json.textsText ss

namespace Condition

/-- A condition's fields in JSON. -/
def form : Json.RecordForm :=
  ⟨[["field"], ["operator", "op"], ["value"]], false⟩

def decode? (p : Place) : Option Condition :=
  match p.record? form with
  | some [field, operator, value] => do
    let field ← Json.required Place.text? field
    let operator ← Json.required Operator.decode? operator
    let value ← Json.fieldOr .absent Operand.decode? value
    return ⟨field, operator, value⟩
  | _ => none

def jsonText (c : Condition) : String :=
  Json.recordText
    [("field", (Json.string c.field).text),
      ("operator", (Json.string c.operator.name).text),
      ("value", c.value.jsonText)]

end Condition

-- ====================================================== type filters

/-- A type filter in JSON: one text or a list of them. -/
def TypeFilter.decode? (p : Place) : Option TypeFilter :=
  match p.node with
  | .string s => s.map .one
  | _ => p.texts?.map .anyOf

def TypeFilter.jsonText : TypeFilter → String
  | one t => (Json.string t).text
  | anyOf ts => Json.textsText ts

-- =========================================================== queries

structure Query where
  types : Option TypeFilter := none
  timeRange : Option String := none
  filters : List Condition := []
  groupBy : Option String := none
  breakdownBy : List String := []
  metrics : Option (List String) := none
  limit : Option Nat := none
  deriving DecidableEq, Repr

namespace Query

/-- The most rows a query may ask for. -/
def maxLimit : Nat := 10000

/-- The largest limit that can be written. -/
def maxWrittenLimit : Nat := 4294967295

def form : Json.RecordForm :=
  ⟨[["types", "type"], ["timeRange"], ["filters"], ["groupBy"], ["breakdownBy"],
    ["metrics"], ["limit"]], true⟩

def decode? (p : Place) : Option Query :=
  match p.record? form with
  | some [types, timeRange, filters, groupBy, breakdownBy, metrics, limit] => do
    let types ← Json.fieldOr none (Place.optional? TypeFilter.decode?) types
    let timeRange ← Json.fieldOr none (Place.optional? Place.text?) timeRange
    let filters ← Json.fieldOr [] (Place.list? Condition.decode?) filters
    let groupBy ← Json.fieldOr none (Place.optional? Place.text?) groupBy
    let breakdownBy ← Json.fieldOr [] Place.texts? breakdownBy
    let metrics ← Json.fieldOr none (Place.optional? Place.texts?) metrics
    let limit ← Json.fieldOr none (Place.optional? (Place.natural? maxWrittenLimit)) limit
    return ⟨types, timeRange, filters, groupBy, breakdownBy, metrics, limit⟩
  | _ => none

/-- The query that a JSON text stands for. -/
def ofText? (s : String) : Option Query :=
  Json.decodeText decode? s

/-- A field that holds a list, left out when the list is empty. -/
def listField (name : String) (items : List String) : List (String × String) :=
  if items.isEmpty then [] else [(name, Json.listText items)]

def jsonText (q : Query) : String :=
  Json.recordText <|
    Json.optionalField "types" TypeFilter.jsonText q.types
      ++ Json.optionalText "timeRange" q.timeRange
      ++ listField "filters" (q.filters.map Condition.jsonText)
      ++ Json.optionalText "groupBy" q.groupBy
      ++ listField "breakdownBy" (q.breakdownBy.map fun s => (Json.string s).text)
      ++ Json.optionalField "metrics" Json.textsText q.metrics
      ++ Json.optionalField "limit" (fun n : Nat => (Json.integer n).text) q.limit

def withTypes (q : Query) (f : TypeFilter) : Query := { q with types := some f }

/-- Asks for a range of time. -/
def withTimeRange (q : Query) (s : String) : Query := { q with timeRange := some s }

def withCondition (q : Query) (c : Condition) : Query :=
  { q with filters := q.filters ++ [c] }

def withGroupBy (q : Query) (key : String) : Query := { q with groupBy := some key }

def withBreakdown (q : Query) (path : String) : Query :=
  { q with breakdownBy := q.breakdownBy ++ [path] }

def withMetrics (q : Query) (names : List String) : Query :=
  { q with metrics := some names }

/-- Asks for a number of rows, but not for more than the most. -/
def withLimit (q : Query) (n : Nat) : Query := { q with limit := some (min n maxLimit) }

/-- The metrics that the query shows: its own if it names any, else the
defaults for its types. -/
def resolvedMetrics (q : Query) (d : MetricDefaults) : List String :=
  match q.metrics with
  | some (m :: ms) => m :: ms
  | _ => d.forTypes q.types

end Query

end EventAnalytics
