/-
The statements that create the event table and its indexes.

Every statement carries `IF NOT EXISTS`, so the whole list can be run
again on a database that has been through it before. The index names are
fixed: they do not depend on the name of the table they serve.
-/
import EventAnalytics.Schema.Column

namespace EventAnalytics

/-- The schema tag written into every event that names no other. -/
def schemaTag : String := "kb.v1"

/-- The event table's usual name. -/
def defaultTable : String := "events"

/-- A secondary index of the event table: its name and its key. -/
structure Index where
  name : String
  columns : List Column
  deriving DecidableEq, Repr

/-- The indexes, in creation order. The last one serves the scan of one
event type over a range of time. -/
def Index.all : List Index :=
  [⟨"idx_events_ts", [.ts]⟩,
    ⟨"idx_events_type", [.type]⟩,
    ⟨"idx_events_product", [.product]⟩,
    ⟨"idx_events_type_ts", [.type, .ts]⟩]

/-- The statement that creates the table. -/
def createTable (table : String) : String :=
  "CREATE TABLE IF NOT EXISTS " ++ table ++ " (\n    "
    ++ String.intercalate ",\n    " (Column.all.map Column.definition)
    ++ "\n)"

def createIndex (table : String) (i : Index) : String :=
  "CREATE INDEX IF NOT EXISTS " ++ i.name ++ " ON " ++ table ++ "("
    ++ String.intercalate ", " (i.columns.map Column.name) ++ ")"

/-- All statements, the table's first. -/
def ddl (table : String) : List String :=
  createTable table :: Index.all.map (createIndex table)

end EventAnalytics
