/-
Aggregate statements over one table.

A statement is kept as its clauses, each a list of rendered expressions,
and becomes text only at the end: projections, table, predicates joined by
`AND`, grouping, ordering and limit, in this order, with every empty
clause left out. Adding to one clause never touches another. A time
bucket is the exception by design: its label leads the projections, the
grouping and the ordering at once.
-/
import EventAnalytics.Granularity
import EventAnalytics.Text.Numeral

namespace EventAnalytics.Sql

/-- The direction of a sort key. -/
inductive Direction where
  | ascending
  | descending
  deriving DecidableEq, Repr

structure SortKey where
  expr : String
  direction : Direction
  deriving DecidableEq, Repr

def SortKey.sql (k : SortKey) : String :=
  match k.direction with
  | .ascending => k.expr
  | .descending => k.expr ++ " DESC"

/-- A `SELECT` statement over one table. -/
structure Select where
  table : String
  projections : List String := []
  predicates : List String := []
  grouping : List String := []
  ordering : List SortKey := []
  limit : Option Nat := none
  deriving DecidableEq, Repr

def aliased (expr name : String) : String :=
  expr ++ " AS " ++ name

def clause (keyword separator : String) (items : List String) : String :=
  if items.isEmpty then ""
  else " " ++ keyword ++ " " ++ String.intercalate separator items

namespace Select

def ofTable (table : String) : Select := { table }

/-- Adds a projection at the end. -/
def project (s : Select) (expr : String) : Select :=
  { s with projections := s.projections ++ [expr] }

/-- Adds a projection under another name. -/
def projectAs (s : Select) (expr name : String) : Select :=
  s.project (aliased expr name)

def filter (s : Select) (predicate : String) : Select :=
  { s with predicates := s.predicates ++ [predicate] }

/-- Adds a grouping expression at the end. -/
def group (s : Select) (expr : String) : Select :=
  { s with grouping := s.grouping ++ [expr] }

/-- Adds a sort key at the end. -/
def order (s : Select) (expr : String) (direction : Direction) : Select :=
  { s with ordering := s.ordering ++ [⟨expr, direction⟩] }

def limitTo (s : Select) (n : Nat) : Select :=
  { s with limit := some n }

/-- Puts the label of a time bucket in front: it is projected, grouped by
and sorted by before anything else. -/
def bucketed (s : Select) (g : Granularity) (column name : String) : Select :=
  { s with
    projections := aliased (g.labelSql column) name :: s.projections
    grouping := name :: s.grouping
    ordering := ⟨name, .ascending⟩ :: s.ordering }

/-- Projects an expression under a name and groups by the expression. -/
def dimension (s : Select) (expr name : String) : Select :=
  (s.projectAs expr name).group expr

/-- Whether the statement sorts its rows. -/
def isOrdered (s : Select) : Bool :=
  !s.ordering.isEmpty

/-- The select list: everything when nothing is projected. -/
def selectList (s : Select) : String :=
  if s.projections.isEmpty then "*" else String.intercalate ", " s.projections

def sql (s : Select) : String :=
  "SELECT " ++ s.selectList ++ " FROM " ++ s.table
    ++ clause "WHERE" " AND " s.predicates
    ++ clause "GROUP BY" ", " s.grouping
    ++ clause "ORDER BY" ", " (s.ordering.map SortKey.sql)
    ++ (match s.limit with
        | some n => " LIMIT " ++ String.ofList (Text.numeral n)
        | none => "")

end Select

end EventAnalytics.Sql
