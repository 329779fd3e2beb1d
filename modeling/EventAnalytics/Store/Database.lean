/-
Databases: tables of rows, and indexes.

A table is known by its key, an index by its name, and each index belongs
to one table, some columns of which it sorts. Creating an object that is
there already changes nothing; since the names of the indexes are fixed,
only the first table of a database gets them.

A row goes into a table when it fills every column that must be filled and
its identity is new to the table. Otherwise nothing changes.
-/
import EventAnalytics.Sql.Name
import EventAnalytics.Store.Row

namespace EventAnalytics

/-- A database. -/
structure Database where
  /-- The tables in order of creation, with their rows in order of arrival. -/
  tables : List (String × List Row) := []
  /-- The indexes in order of creation, each with the key of its table. -/
  indexes : List (Index × String) := []

inductive ObjectKind where
  | table
  | index
  deriving DecidableEq, Repr

def ObjectKind.name : ObjectKind → String
  | .table => "table"
  | .index => "index"

structure SchemaObject where
  kind : ObjectKind
  name : String
  deriving DecidableEq, Repr

namespace Database

-- ============================================================ objects

/-- Whether there is a table with a given key. -/
def hasTable (d : Database) (key : String) : Bool :=
  d.tables.any fun t => t.1 == key

/-- Whether there is an index with a given name. -/
def hasIndex (d : Database) (name : String) : Bool :=
  d.indexes.any fun i => i.1.name == name

/-- Creates a table without rows. -/
def addTable (d : Database) (key : String) : Database :=
  if d.hasTable key then d else { d with tables := d.tables ++ [(key, [])] }

/-- Creates an index of a table, unless its name is taken. -/
def addIndex (key : String) (d : Database) (i : Index) : Database :=
  if d.hasIndex i.name then d else { d with indexes := d.indexes ++ [(i, key)] }

/-- Creates an event table and its indexes. -/
def define (d : Database) (key : String) : Database :=
  Index.all.foldl (addIndex key) (d.addTable key)

/-- Whether there is nothing left to create for an event table. -/
def isDefined (d : Database) (key : String) : Bool :=
  d.hasTable key && Index.all.all fun i => d.hasIndex i.name

/-- Whether listings pass over an object: its name is `sqlite` in any case
and at least one character more. -/
def isHidden (name : String) : Bool :=
  let cs := name.toList.map Text.lowerChar
  "sqlite".toList.isPrefixOf cs && 6 < cs.length

/-- The objects that belong to a table, the table first and then its
indexes by name. They are filed under the name that the database knows
the table by, and no other spelling finds them. -/
def objects (d : Database) (t : Sql.TableName) : List SchemaObject :=
  if t.isPlain then
    let tables := (d.tables.map Prod.fst).filter fun k => k == t.key
    let indexes := (d.indexes.filter fun i => i.2 == t.key).map fun i => i.1.name
    let sorted := indexes.mergeSort fun a b => a ≤ b
    (tables.map (SchemaObject.mk .table) ++ sorted.map (SchemaObject.mk .index)).filter
      fun o => !isHidden o.name
  else []

-- =============================================================== rows

def rows (d : Database) (key : String) : List Row :=
  match d.tables.find? fun t => t.1 == key with
  | some t => t.2
  | none => []

/-- The row with a given identity. -/
def row? (d : Database) (key id : String) : Option Row :=
  (d.rows key).find? fun r => r .id == some id

/-- Puts rows in place of those of a table. -/
def setRows (d : Database) (key : String) (rows : List Row) : Database :=
  { d with tables := d.tables.map fun t => if t.1 = key then (key, rows) else t }

/-- Whether a row may join some others. -/
def admits (rows : List Row) (r : Row) : Bool :=
  r.isComplete && !rows.any fun s => s .id == r .id

/-- Adds a row to a table, unless that breaks a rule of the table. -/
def insert? (d : Database) (key : String) (r : Row) : Option Database :=
  if d.hasTable key && admits (d.rows key) r then
    some (d.setRows key (d.rows key ++ [r]))
  else none

end Database

end EventAnalytics
