/-
Time buckets.

Each granularity has one key, which is also the unit handed to
`date_trunc`, and one label format. The week label counts weeks from the
first of January.
-/

namespace EventAnalytics

/-- The width of a time bucket. -/
inductive Granularity where
  | hour
  | day
  | week
  | month
  deriving DecidableEq, Repr

namespace Granularity

def all : List Granularity := [hour, day, week, month]

/-- The key that names the granularity. -/
def key : Granularity → String
  | hour => "hour"
  | day => "day"
  | week => "week"
  | month => "month"

/-- The unit passed to `date_trunc`. -/
def truncUnit (g : Granularity) : String := g.key

/-- The format of the bucket label. -/
def labelFormat : Granularity → String
  | hour => "YYYY-MM-DDTHH"
  | day => "YYYY-MM-DD"
  | week => "YYYY-\"W\"WW"
  | month => "YYYY-MM"

/-- The granularity with a given key; only the exact keys count. -/
def ofKey? (s : String) : Option Granularity :=
  all.find? fun g => g.key == s

/-- The expression that truncates a timestamp column. -/
def truncSql (g : Granularity) (column : String) : String :=
  "date_trunc('" ++ g.truncUnit ++ "', " ++ column ++ ")"

/-- The expression that labels a bucket. -/
def labelSql (g : Granularity) (column : String) : String :=
  "to_char(" ++ g.truncSql column ++ ", '" ++ g.labelFormat ++ "')"

/-- Reading a key back gives the granularity. -/
theorem ofKey?_key (g : Granularity) : ofKey? g.key = some g := by
  cases g <;> decide

end Granularity

end EventAnalytics
