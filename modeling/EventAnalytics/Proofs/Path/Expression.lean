/-
The expression for a path, read back.

Whoever evaluates a clause sees the text for a path and not what the path
was resolved to. Here the text is read as an expression again: it names
the column of the field, or the document and the place inside it.
-/
import EventAnalytics.Proofs.Query.Lexemes
import EventAnalytics.Proofs.Sql.Predicate

namespace EventAnalytics

open Sql

namespace FieldRef

/-- The expression that reads a field. -/
def reference : FieldRef → Reference
  | direct c | actor c | source c => .column c.name
  | inside d p => .extraction d.column.name p.text
  | fallback p => .extraction Document.payload.column.name p.text

end FieldRef

-- ========================================================= expressions

/-- A word alone is a column. -/
theorem Reference.read?_word (c : String) {rest : List Lexeme}
    (h : rest.head? ≠ some (.mark '(')) :
    Reference.read? (.word c :: rest) = some (.column c, rest) := by
  unfold Reference.read?
  split
  · next heq =>
    obtain ⟨-, rfl⟩ := List.cons.inj heq
    exact absurd rfl h
  · next heq =>
    obtain ⟨hc, rfl⟩ := List.cons.inj heq
    rw [Lexeme.word.inj hc]
  · next hne => exact absurd rfl (hne c rest)

theorem Reference.read?_extraction (d : Document) (segments : List String)
    (rest : List Lexeme) :
    Reference.read? (extractionLexemes d segments ++ rest)
      = some (.extraction d.column.name (pointerText segments), rest) := by
  unfold extractionLexemes
  simp only [List.cons_append, List.nil_append, Reference.read?, if_true]

/-- The lexemes for a path are the expression that reads its field. -/
theorem Reference.read?_path {path : String} {f : FieldRef} (h : FieldRef.ofPath path = .ok f)
    {rest : List Lexeme} (hrest : rest.head? ≠ some (.mark '(')) :
    Reference.read? (pathLexemes path ++ rest) = some (f.reference, rest) := by
  rcases FieldRef.ofPath_cases h with ⟨c, hc, -⟩ | ⟨d, p, rfl, hp⟩ | ⟨p, rfl, hp⟩
  · have hcolumn : pathLexemes path = [.word c.name] ∧ f.reference = .column c.name := by
      cases f <;> cases hc <;> exact ⟨by simp only [pathLexemes, h], rfl⟩
    rw [hcolumn.1, hcolumn.2]
    exact read?_word c.name hrest
  · simp only [pathLexemes, h]
    rw [read?_extraction, ← hp]
    rfl
  · simp only [pathLexemes, h]
    rw [read?_extraction, ← hp]
    rfl

/-- The text for a path spells the expression that reads its field. -/
theorem Reference.ofText?_path {path expr : String} {f : FieldRef}
    (h : FieldRef.ofPath path = .ok f) (hexpr : pathSql path = .ok expr) :
    Reference.ofText? expr = some f.reference := by
  have hread : Reference.read? (pathLexemes path ++ []) = some (f.reference, []) :=
    read?_path h nofun
  rw [List.append_nil] at hread
  unfold Reference.ofText?
  rw [lexemes?_pathSql hexpr, Option.bind_some, hread]

end EventAnalytics
