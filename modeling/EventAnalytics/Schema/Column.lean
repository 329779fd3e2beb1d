/-
The columns of the event table, as a closed set.

Thirteen columns hold an event: four that every row fills (identity,
schema tag, type, time), seven optional texts that flatten the nested
parts of an event, and two optional JSON documents. A row is a function
from columns. Positions exist only in `Column.all`, the declaration order,
which rows are put in by and selected in.
-/

namespace EventAnalytics

/-- A physical column of the event table. -/
inductive Column where
  | id
  | schema
  | type
  | ts
  | ingestTs
  | runId
  | product
  | version
  | actorType
  | actorId
  | actorName
  | ctx
  | payload
  deriving DecidableEq, Repr

/-- The declared type of a column. -/
inductive ColumnType where
  | text
  | timestamp
  | json
  deriving DecidableEq, Repr

/-- The type as a table definition spells it. -/
def ColumnType.name : ColumnType → String
  | .text => "TEXT"
  | .timestamp => "TIMESTAMPTZ"
  | .json => "JSON"

namespace Column

def all : List Column :=
  [id, schema, type, ts, ingestTs, runId, product, version, actorType,
    actorId, actorName, ctx, payload]

def name : Column → String
  | .id => "id"
  | .schema => "schema"
  | .type => "type"
  | .ts => "ts"
  | .ingestTs => "ingest_ts"
  | .runId => "run_id"
  | .product => "product"
  | .version => "version"
  | .actorType => "actor_type"
  | .actorId => "actor_id"
  | .actorName => "actor_name"
  | .ctx => "ctx"
  | .payload => "payload"

def kind : Column → ColumnType
  | .ts | .ingestTs => .timestamp
  | .ctx | .payload => .json
  | _ => .text

/-- Whether a row may leave the column empty. -/
def nullable : Column → Bool
  | .id | .schema | .type | .ts => false
  | _ => true

/-- The constraint or default that ends the column's definition. -/
def extra : Column → Option String
  | .id => some "PRIMARY KEY"
  | .schema => some "DEFAULT 'kb.v1'"
  | _ => none

/-- The column as it stands in a table definition. -/
def definition (c : Column) : String :=
  c.name ++ " " ++ c.kind.name
    ++ (if c.nullable then "" else " NOT NULL")
    ++ (match c.extra with
        | some e => " " ++ e
        | none => "")

/-- The column of a given name. -/
def named? (s : String) : Option Column :=
  all.find? fun c => c.name == s

-- ============================================================== laws

/-- No column is missing from the list. -/
theorem mem_all (c : Column) : c ∈ all := by
  cases c <;> decide

/-- A column is found by its name. -/
theorem named?_name (c : Column) : named? c.name = some c := by
  cases c <;> decide

/-- So no two columns share a name. -/
theorem name_inj {c d : Column} (h : c.name = d.name) : c = d :=
  Option.some.inj ((named?_name c).symm.trans (h ▸ named?_name d))

end Column

end EventAnalytics
