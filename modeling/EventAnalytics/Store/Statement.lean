/-
The statements that a store runs on its table.

An insertion names every column and has a placeholder for each, which
stands for the text that is bound at the column's position. Where a column
may be left empty, an empty text counts as none. A selection reads every
column and gives an empty text for none. So an empty text and a missing
one look alike from then on.

The table is put into a statement as it is spelled.
-/
import EventAnalytics.Schema.Column
import EventAnalytics.Text.Numeral

namespace EventAnalytics

/-- What an insertion puts into a column. -/
structure Placeholder where
  /-- Where the text is bound, counted from zero. -/
  position : Nat
  /-- Whether an empty text counts as none. -/
  nullIfEmpty : Bool
  deriving DecidableEq, Repr

namespace Placeholder

/-- The placeholders of all columns, in their order. -/
def all : List Placeholder :=
  Column.all.mapIdx fun i c => ⟨i, c.nullable⟩

/-- The placeholder in a statement, where positions are counted from one. -/
def sql (p : Placeholder) : String :=
  let parameter := "?" ++ String.ofList (Text.numeral (p.position + 1))
  if p.nullIfEmpty then "NULLIF(" ++ parameter ++ ", '')" else parameter

/-- The text or nothing that a placeholder stands for, once texts are bound. -/
def value (texts : List String) (p : Placeholder) : Option String :=
  texts[p.position]?.filter fun s => !(p.nullIfEmpty && s == "")

end Placeholder

/-- The column as a selection reads it. -/
def Column.projection (c : Column) : String :=
  "COALESCE(" ++ c.name ++ ", '')"

/-- A statement on rows. -/
inductive Statement where
  /-- Adds a row. -/
  | insert
  /-- Reads the row with an identity. -/
  | select
  /-- Counts the rows. -/
  | count
  /-- Counts the rows with an identity. -/
  | countOf
  deriving DecidableEq, Repr

def Statement.sql (table : String) : Statement → String
  | insert =>
    "INSERT INTO " ++ table ++ " (" ++ String.intercalate ", " (Column.all.map Column.name)
      ++ ") VALUES (" ++ String.intercalate ", " (Placeholder.all.map Placeholder.sql) ++ ")"
  | select =>
    "SELECT " ++ String.intercalate ", " (Column.all.map Column.projection)
      ++ " FROM " ++ table ++ " WHERE id = ?1"
  | count => "SELECT COUNT(*) FROM " ++ table
  | countOf => "SELECT COUNT(*) FROM " ++ table ++ " WHERE id = ?1"

-- ============================================================== laws

/-- With a text bound for every column, each placeholder stands for that of
its own column, but for none where an empty one does not count. -/
theorem Placeholder.map_value (f : Column → String) :
    all.map (value (Column.all.map f))
      = Column.all.map fun c => (some (f c)).filter fun s => !(c.nullable && s == "") := by
  apply List.ext_getElem?
  intro i
  unfold all
  rw [List.getElem?_map, List.getElem?_map, List.getElem?_mapIdx, Option.map_map]
  cases hc : Column.all[i]? with
  | none => rfl
  | some c =>
    have htext : (Column.all.map f)[i]? = some (f c) := by
      rw [List.getElem?_map, hc]
      rfl
    simp only [Option.map_some, Function.comp_apply, value, htext]

end EventAnalytics
