/-
Databases as texts, the form in which they outlive the program.

The first line is a mark. Each further line is a JSON array: a table with
its key, an index with its name, its columns and the key of its table, or
a row with the key of its table and a text or `null` for each column.
Tables come before their rows, and rows keep their order.
-/
import EventAnalytics.Json.Node
import EventAnalytics.Json.Writer
import EventAnalytics.Store.Database
import EventAnalytics.Text.Lines

namespace EventAnalytics.Database

/-- The line that every image starts with. -/
def imageMark : String := "kb event store, version 1"

/-- A text or nothing as a JSON value. -/
def cell : Option String → Json
  | some s => .string s
  | none => .null

/-- The text or nothing that a JSON value stands for. -/
def ofCell? : Json → Option (Option String)
  | .string s => some (some s)
  | .null => some none
  | _ => none

def rowLine (key : String) (r : Row) : Json :=
  .array (.string "row" :: .string key :: Column.all.map fun c => cell (r c))

def tableLines (t : String × List Row) : List Json :=
  .array [.string "table", .string t.1] :: t.2.map (rowLine t.1)

def indexLine (i : Index × String) : Json :=
  .array [.string "index", .string i.1.name,
    .array (i.1.columns.map fun c => .string c.name), .string i.2]

def image (d : Database) : String :=
  let lines := d.tables.flatMap tableLines ++ d.indexes.map indexLine
  String.join ((imageMark :: lines.map Json.text).map fun l => l ++ "\n")

/-- The column whose name a JSON value is. -/
def column? : Json → Option Column
  | .string s => Column.named? s
  | _ => none

/-- A database with what a line adds to it. -/
def addLine? (d : Database) : Json → Option Database
  | .array [.string "table", .string key] => some (d.addTable key)
  | .array [.string "index", .string name, .array columns, .string key] =>
    (columns.mapM column?).map fun cs =>
      { d with indexes := d.indexes ++ [(⟨name, cs⟩, key)] }
  | .array (.string "row" :: .string key :: cells) =>
    (cells.mapM ofCell?).map fun texts =>
      d.setRows key (d.rows key ++ [Row.ofTexts texts])
  | _ => none

/-- The database with a given image. -/
def ofImage? (s : String) : Option Database :=
  match Text.lines s with
  | [] => none
  | mark :: lines =>
    if mark = imageMark then
      (lines.mapM Json.ofText?).bind fun vs => vs.foldlM addLine? {}
    else none

end EventAnalytics.Database
