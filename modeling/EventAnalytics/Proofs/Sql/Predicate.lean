/-
What a clause of a `WHERE` says, by the standard rules.

A predicate is read off the lexemes of its text: an expression that reads
something of a row, and a test of what it reads against literals. Nothing
but the lexemes counts, so a literal is what its quotes decode to and a
pattern is what its escapes leave of it.

Truth has three values, and a row is kept where a predicate is true. What
is not known stays unknown: a test of `NULL` is neither true nor false,
negated or not, unless it asks for `NULL` itself.
-/
import EventAnalytics.Proofs.Sql.Lexeme
import EventAnalytics.Proofs.Sql.Pattern

namespace EventAnalytics.Sql

-- ========================================================= expressions

/-- An expression that reads something of a row. -/
inductive Reference where
  | column (name : String)
  /-- The value in a place of the document that a column holds. -/
  | extraction (column place : String)
  deriving DecidableEq, Repr

/-- The expression at the front of some lexemes, with the rest. -/
def Reference.read? : List Lexeme → Option (Reference × List Lexeme)
  | .word f :: .mark '(' :: .word c :: .mark ',' :: .quoted .literal p :: .mark ')' :: rest =>
    if f = "json_extract_string" then some (.extraction c p, rest) else none
  | .word c :: rest => some (.column c, rest)
  | _ => none

/-- The expression that a text spells. -/
def Reference.ofText? (s : String) : Option Reference :=
  match (lexemes? s).bind read? with
  | some (e, []) => some e
  | _ => none

-- =============================================================== tests

/-- How a text is compared with another. -/
inductive Comparison where
  | eq
  | ne
  | gt
  | ge
  | lt
  | le
  deriving DecidableEq, Repr

/-- Whether a comparison holds; texts are ordered by their characters. -/
def Comparison.holds (s t : String) : Comparison → Bool
  | eq => s = t
  | ne => s ≠ t
  | gt => t < s
  | ge => t ≤ s
  | lt => s < t
  | le => s ≤ t

/-- What is asked about a value. -/
inductive Test where
  | isNull
  | compare (sign : Comparison) (text : String)
  | among (texts : List String)
  | like (items : List PatternItem)
  | not (t : Test)
  deriving DecidableEq, Repr

/-- Whether one of two is true, when either may be unknown. -/
def either : Option Bool → Option Bool → Option Bool
  | some true, _ | _, some true => some true
  | some false, b => b
  | a, some false => a
  | none, none => none

namespace Test

/-- The truth of a test of a value, unknown when it hangs on `NULL`. -/
def truth (x : Option String) : Test → Option Bool
  | isNull => some x.isNone
  | compare sign t => x.map fun s => sign.holds s t
  | among ts => ts.foldr (fun t b => either (x.map (· == t)) b) (some false)
  | like items => x.map fun s => patternMatches items s.toList
  | not t => (t.truth x).map (!·)

/-- The texts of a list of literals that ends with a parenthesis. -/
def literals? : List Lexeme → Option (List String)
  | [.quoted .literal t, .mark ')'] => some [t]
  | .quoted .literal t :: .mark ',' :: rest => (literals? rest).map (t :: ·)
  | _ => none

/-- The pattern that a literal and a literal escape character spell. -/
def pattern? (pattern escape : String) : Option Test :=
  match escape.toList with
  | [c] => (readPattern? c pattern.toList).map like
  | _ => none

/-- The test that some lexemes spell, if it starts without a negation. -/
def plain? : List Lexeme → Option Test
  | [.mark '=', .quoted .literal t] => some (compare .eq t)
  | [.mark '!', .mark '=', .quoted .literal t] => some (compare .ne t)
  | [.mark '>', .quoted .literal t] => some (compare .gt t)
  | [.mark '>', .mark '=', .quoted .literal t] => some (compare .ge t)
  | [.mark '<', .quoted .literal t] => some (compare .lt t)
  | [.mark '<', .mark '=', .quoted .literal t] => some (compare .le t)
  | [.word "LIKE", .quoted .literal p, .word "ESCAPE", .quoted .literal e] => pattern? p e
  | .word "IN" :: .mark '(' :: rest => (literals? rest).map among
  | _ => none

/-- The test that some lexemes spell. -/
def read? : List Lexeme → Option Test
  | [.word "IS", .word "NULL"] => some isNull
  | [.word "IS", .word "NOT", .word "NULL"] => some (not isNull)
  | .word "NOT" :: rest => (plain? rest).map not
  | ls => plain? ls

end Test

-- ========================================================== predicates

/-- A test of what an expression reads. -/
structure Predicate where
  subject : Reference
  test : Test
  deriving DecidableEq, Repr

/-- The predicate that a text spells. -/
def Predicate.ofText? (s : String) : Option Predicate :=
  (lexemes? s).bind fun ls =>
    (Reference.read? ls).bind fun (e, rest) => (Test.read? rest).map (⟨e, ·⟩)

/-- The truth of a predicate about a row, given what is read of it. -/
def Predicate.truth (value : Reference → Option String) (p : Predicate) : Option Bool :=
  p.test.truth (value p.subject)

-- =============================================================== truth

/-- Membership in a list is equality with one of its texts. -/
theorem Test.truth_among (s : String) (ts : List String) :
    (among ts).truth (some s) = some (ts.contains s) := by
  unfold truth
  induction ts with
  | nil => rfl
  | cons t ts ih =>
    rw [List.foldr_cons, ih, List.contains_cons, Option.map_some]
    cases s == t <;> cases ts.contains s <;> rfl

/-- It is not known whether `NULL` is in a list that is not empty. -/
theorem Test.truth_among_null (t : String) (ts : List String) :
    (among (t :: ts)).truth none = none := by
  unfold truth
  induction ts generalizing t with
  | nil => rfl
  | cons u ts ih =>
    rw [List.foldr_cons, ih u]
    rfl

theorem Test.literals?_intercalate (t : String) (ts : List String) :
    literals? (List.intercalate [.mark ','] ((t :: ts).map fun t => [.quoted .literal t])
      ++ [.mark ')']) = some (t :: ts) := by
  induction ts generalizing t with
  | nil => rfl
  | cons u ts ih =>
    have hcons : List.intercalate [Lexeme.mark ','] ((t :: u :: ts).map fun t => [.quoted .literal t])
          ++ [.mark ')']
        = .quoted .literal t :: .mark ','
          :: (List.intercalate [.mark ','] ((u :: ts).map fun t => [.quoted .literal t])
            ++ [.mark ')']) := by
      rw [List.map_cons, List.map_cons, List.intercalate_cons_cons]
      rfl
    rw [hcons, literals?, ih u]
    rfl

end EventAnalytics.Sql
