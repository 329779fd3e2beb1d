/-
Conditions: a field, an operator and an operand, rendered as one clause of
a `WHERE`.

The operand is absent, one text, or a list of texts. The operators that
ask whether a field is set take any operand and ignore it; membership
needs a list with something in it; all other operators need a single
text. The field's path is checked before the operand.
-/
import EventAnalytics.FieldRef
import EventAnalytics.Operator
import EventAnalytics.Sql.Quote

namespace EventAnalytics

/-- What a condition compares a field with. -/
inductive Operand where
  | absent
  | single (text : String)
  | list (texts : List String)
  deriving DecidableEq, Repr

/-- The operand as messages show it. -/
def Operand.shown : Operand → String
  | absent => "None"
  | single s => "Single(" ++ Text.quoted s ++ ")"
  | list ss => "Multiple(" ++ Text.quotedList ss ++ ")"

/-- A condition on one field of an event. -/
structure Condition where
  field : String
  operator : Operator
  value : Operand
  deriving DecidableEq, Repr

/-- Why a condition has no clause. -/
inductive ConditionError where
  | unsafePath (e : UnsafeSegment)
  | operandMismatch (c : Condition)
  deriving DecidableEq, Repr

namespace Condition

/-- The report of an operand that does not fit its operator. -/
def mismatchText (c : Condition) : String :=
  "operator " ++ c.operator.name ++ " does not accept value " ++ c.value.shown
    ++ " for field " ++ c.field

def patternSql (field : String) (shape : Operator.PatternShape) (text : String) : String :=
  field ++ (if shape.negated then " NOT LIKE '" else " LIKE '")
    ++ (if shape.openStart then "%" else "") ++ Sql.escapedPattern text
    ++ (if shape.openEnd then "%" else "") ++ "' ESCAPE '\\'"

/-- The comparison of a field with a single text, if the operator has one. -/
def singleSql? (field : String) (op : Operator) (text : String) : Option String :=
  match op.comparison? with
  | some sign => some (field ++ " " ++ sign ++ " " ++ Sql.literal text)
  | none => op.pattern?.map fun shape => patternSql field shape text

/-- A list of literals between parentheses. -/
def literalList (texts : List String) : String :=
  "(" ++ String.intercalate ", " (texts.map Sql.literal) ++ ")"

/-- The comparison over the field's expression, if the operand fits. -/
def compareSql? (field : String) (op : Operator) (value : Operand) : Option String :=
  match op, value with
  | .isSet, _ => some (field ++ " IS NOT NULL")
  | .isNotSet, _ => some (field ++ " IS NULL")
  | .isIn, .list (t :: ts) => some (field ++ " IN " ++ literalList (t :: ts))
  | .notIn, .list (t :: ts) => some (field ++ " NOT IN " ++ literalList (t :: ts))
  | op, .single t => singleSql? field op t
  | _, _ => none

def sql (c : Condition) : Except ConditionError String :=
  match pathSql c.field with
  | .error e => .error (.unsafePath e)
  | .ok field =>
    match compareSql? field c.operator c.value with
    | some clause => .ok clause
    | none => .error (.operandMismatch c)

def eq (field text : String) : Condition := ⟨field, .eq, .single text⟩

/-- The field differs from a text. -/
def ne (field text : String) : Condition := ⟨field, .ne, .single text⟩

/-- The field has a text somewhere inside. -/
def contains (field text : String) : Condition := ⟨field, .contains, .single text⟩

/-- The field is one of several texts. -/
def isIn (field : String) (texts : List String) : Condition := ⟨field, .isIn, .list texts⟩

def isSet (field : String) : Condition := ⟨field, .isSet, .absent⟩

def isNotSet (field : String) : Condition := ⟨field, .isNotSet, .absent⟩

end Condition

end EventAnalytics
