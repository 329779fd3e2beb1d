/-
The comparisons a condition can make, their canonical names and the other
spellings a caller may use.

Spellings are compared without regard to the case of ASCII letters. The
canonical name comes back when an operator is shown.
-/
import EventAnalytics.Text.Numeral

namespace EventAnalytics

/-- How a condition compares a field with its operand. -/
inductive Operator where
  | eq
  | ne
  | gt
  | gte
  | lt
  | lte
  | contains
  | notContains
  | startsWith
  | endsWith
  | isIn
  | notIn
  | isSet
  | isNotSet
  deriving DecidableEq, Repr

namespace Operator

def all : List Operator :=
  [eq, ne, gt, gte, lt, lte, contains, notContains, startsWith, endsWith,
    isIn, notIn, isSet, isNotSet]

def name : Operator → String
  | eq => "eq"
  | ne => "ne"
  | gt => "gt"
  | gte => "gte"
  | lt => "lt"
  | lte => "lte"
  | contains => "contains"
  | notContains => "not_contains"
  | startsWith => "starts_with"
  | endsWith => "ends_with"
  | isIn => "in"
  | notIn => "not_in"
  | isSet => "is_set"
  | isNotSet => "is_not_set"

def aliases : Operator → List String
  | eq => ["=", "=="]
  | ne => ["!=", "<>"]
  | gt => [">"]
  | gte => [">="]
  | lt => ["<"]
  | lte => ["<="]
  | contains => ["like"]
  | notContains => ["not_like"]
  | isSet => ["isset"]
  | isNotSet => ["isnotset"]
  | startsWith | endsWith | isIn | notIn => []

/-- All spellings, the canonical one first. -/
def spellings (op : Operator) : List String :=
  op.name :: op.aliases

/-- The operator that a text spells, in any ASCII case. -/
def ofText? (s : String) : Option Operator :=
  all.find? fun op => op.spellings.contains (Text.lowered s)

/-- The report of a text that spells no operator. -/
def unknownMessage (s : String) : String :=
  "invalid operator: " ++ s

/-- The operator with exactly this canonical name. -/
def ofName? (s : String) : Option Operator :=
  all.find? fun op => op.name == s

/-- The comparison sign of a scalar comparison. -/
def comparison? : Operator → Option String
  | eq => some "="
  | ne => some "!="
  | gt => some ">"
  | gte => some ">="
  | lt => some "<"
  | lte => some "<="
  | _ => none

/-- How a pattern comparison is built: whether it is negated, and whether
anything may stand before and after the operand. -/
structure PatternShape where
  negated : Bool
  openStart : Bool
  openEnd : Bool
  deriving DecidableEq, Repr

/-- The shape of a pattern comparison. -/
def pattern? : Operator → Option PatternShape
  | contains => some ⟨false, true, true⟩
  | notContains => some ⟨true, true, true⟩
  | startsWith => some ⟨false, false, true⟩
  | endsWith => some ⟨false, true, false⟩
  | _ => none

/-- Reading a canonical name back gives the operator. -/
theorem ofName?_name (op : Operator) : ofName? op.name = some op := by
  cases op <;> decide

end Operator

end EventAnalytics
