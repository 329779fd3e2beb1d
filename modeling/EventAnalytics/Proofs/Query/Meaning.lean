/-
What a condition means.

`Operator.Holds` says what each operator asks of a value, on the texts as
the caller wrote them; `condition_means_its_operator` says that the clause
of a condition is true of a row in just these cases. The clause is taken
as text, cut into lexemes and read as a predicate, so all escaping is
undone by the rules of SQL and not by ours.

A missing value satisfies no condition but the one that asks for it. That
is so because the truth of every other test is unknown then, and it holds
of the negated ones as well.
-/
import EventAnalytics.Proofs.Path.Expression

namespace EventAnalytics

open Sql

-- =========================================================== operators

/-- Whether an operand is one that an operator can compare with. -/
def Operator.fits : Operator → Operand → Bool
  | .isSet, _ | .isNotSet, _ => true
  | .isIn, .list ts | .notIn, .list ts => !ts.isEmpty
  | .isIn, _ | .notIn, _ => false
  | _, .single _ => true
  | _, _ => false

/-- Whether a value, which may be missing, is one that an operator with its
operand asks for. -/
def Operator.Holds : Operator → Operand → Option String → Prop
  | .isSet, _, x => x ≠ none
  | .isNotSet, _, x => x = none
  | .eq, .single v, some s => s = v
  | .ne, .single v, some s => s ≠ v
  | .gt, .single v, some s => v < s
  | .gte, .single v, some s => v ≤ s
  | .lt, .single v, some s => s < v
  | .lte, .single v, some s => s ≤ v
  | .contains, .single v, some s => v.toList <:+: s.toList
  | .notContains, .single v, some s => ¬v.toList <:+: s.toList
  | .startsWith, .single v, some s => v.toList <+: s.toList
  | .endsWith, .single v, some s => v.toList <:+ s.toList
  | .isIn, .list vs, some s => s ∈ vs
  | .notIn, .list vs, some s => s ∉ vs
  | _, _, _ => False

/-- There is a clause exactly for the operands that fit. -/
theorem Condition.isSome_compareSql? (field : String) (op : Operator) (value : Operand) :
    (compareSql? field op value).isSome = op.fits value := by
  cases value with
  | absent => cases op <;> rfl
  | single t => cases op <;> rfl
  | list ts => cases ts <;> cases op <;> rfl

-- ============================================================ patterns

/-- What the pattern of a comparison stands for. -/
def patternItems (shape : Operator.PatternShape) (text : String) : List PatternItem :=
  (if shape.openStart then [.run] else [])
    ++ (text.toList.map .plain ++ if shape.openEnd then [.run] else [])

/-- The pattern for a text is read as the text, with runs at its open
ends. -/
theorem pattern?_patternText (shape : Operator.PatternShape) (text : String) :
    Test.pattern? (patternText shape text) "\\" = some (.like (patternItems shape text)) := by
  have hchars : (patternText shape text).toList
      = (if shape.openStart then ['%'] else [])
        ++ (patternChars text.toList ++ if shape.openEnd then ['%'] else []) := by
    unfold patternText
    rw [String.toList_append, String.toList_append, String.toList_ofList, List.append_assoc]
    cases shape.openStart <;> cases shape.openEnd <;> rfl
  have hend : readPattern? '\\' (if shape.openEnd then ['%'] else [])
      = some (if shape.openEnd then [.run] else []) := by
    cases shape.openEnd <;> rfl
  have hescape : "\\".toList = ['\\'] := rfl
  unfold Test.pattern? patternItems
  rw [hescape, hchars]
  cases shape.openStart with
  | false =>
    simp only [Bool.false_eq_true, if_false, List.nil_append]
    rw [readPattern?_patternChars, hend]
    rfl
  | true =>
    simp only [if_true, List.singleton_append]
    rw [readPattern?_cons (by decide), readPattern?_patternChars, hend]
    rfl

-- =============================================================== tests

/-- A test that is unknown for a missing value and decided for others. -/
theorem map_eq_true_iff {f : String → Bool} {P : Option String → Prop} (hnone : ¬P none)
    (hsome : ∀ s, f s = true ↔ P (some s)) (x : Option String) :
    x.map f = some true ↔ P x := by
  cases x with
  | none => exact iff_of_false nofun hnone
  | some s =>
    rw [Option.map_some, Option.some.injEq]
    exact hsome s

theorem read?_pattern {op : Operator} {shape : Operator.PatternShape} (text : String)
    (h : op.pattern? = some shape) :
    Test.read? (comparisonLexemes op (.single text))
      = some (if shape.negated then .not (.like (patternItems shape text))
        else .like (patternItems shape text)) := by
  have hpattern := pattern?_patternText shape text
  cases op <;> cases h
  · exact hpattern
  · exact congrArg (Option.map Test.not) hpattern
  · exact hpattern
  · exact hpattern

theorem read?_among (t : String) (ts : List String) :
    Test.read? (comparisonLexemes .isIn (.list (t :: ts))) = some (.among (t :: ts)) :=
  congrArg (Option.map Test.among) (Test.literals?_intercalate t ts)

theorem read?_not_among (t : String) (ts : List String) :
    Test.read? (comparisonLexemes .notIn (.list (t :: ts))) = some (.not (.among (t :: ts))) :=
  congrArg (Option.map Test.not) (read?_among t ts)

/-- Membership is known of a value that is there and of no other. -/
theorem truth_among_iff (t : String) (ts : List String) (x : Option String) :
    ((Test.among (t :: ts)).truth x = some true ↔ Operator.isIn.Holds (.list (t :: ts)) x)
      ∧ ((Test.not (.among (t :: ts))).truth x = some true
        ↔ Operator.notIn.Holds (.list (t :: ts)) x) := by
  have hnot : (Test.not (.among (t :: ts))).truth x
      = ((Test.among (t :: ts)).truth x).map (!·) := rfl
  rw [hnot]
  cases x with
  | none =>
    rw [Test.truth_among_null]
    exact ⟨iff_of_false nofun id, iff_of_false nofun id⟩
  | some s =>
    have hmem := @List.contains_iff_mem _ _ _ s (t :: ts)
    rw [Test.truth_among, Option.map_some, Option.some.injEq, Option.some.injEq]
    refine ⟨hmem, ?_⟩
    rw [Bool.not_eq_true', ← Bool.not_eq_true, hmem]
    exact Iff.rfl

/-- The lexemes of a comparison spell a test that is true of the values
that the operator asks for. -/
theorem exists_test {op : Operator} {value : Operand} (h : op.fits value = true) :
    ∃ t, Test.read? (comparisonLexemes op value) = some t
      ∧ ∀ x, t.truth x = some true ↔ op.Holds value x := by
  match op, value, h with
  | .isSet, _, _ =>
    refine ⟨.not .isNull, rfl, ?_⟩
    intro x
    cases x with
    | none => exact iff_of_false nofun (fun hx => hx rfl)
    | some s => exact iff_of_true rfl nofun
  | .isNotSet, _, _ =>
    refine ⟨.isNull, rfl, ?_⟩
    intro x
    cases x with
    | none => exact iff_of_true rfl rfl
    | some s => exact iff_of_false nofun nofun
  | .eq, .single v, _ =>
    -- the six comparisons differ only in what is decided for a text that is
    -- there
    exact ⟨.compare .eq v, rfl, map_eq_true_iff id fun s => decide_eq_true_iff⟩
  | .ne, .single v, _ =>
    exact ⟨.compare .ne v, rfl, map_eq_true_iff id fun s => decide_eq_true_iff⟩
  | .gt, .single v, _ =>
    exact ⟨.compare .gt v, rfl, map_eq_true_iff id fun s => decide_eq_true_iff⟩
  | .gte, .single v, _ =>
    exact ⟨.compare .ge v, rfl, map_eq_true_iff id fun s => decide_eq_true_iff⟩
  | .lt, .single v, _ =>
    exact ⟨.compare .lt v, rfl, map_eq_true_iff id fun s => decide_eq_true_iff⟩
  | .lte, .single v, _ =>
    exact ⟨.compare .le v, rfl, map_eq_true_iff id fun s => decide_eq_true_iff⟩
  | .contains, .single v, _ =>
    -- a pattern is open at both ends, at its end or at its start
    refine ⟨_, read?_pattern v rfl, map_eq_true_iff id ?_⟩
    intro s
    exact patternMatches_open v.toList s.toList
  | .notContains, .single v, _ =>
    refine ⟨_, read?_pattern v rfl, ?_⟩
    intro x
    -- the test is a negation, which leaves a missing value undecided
    show (x.map _).map (!·) = _ ↔ _
    rw [Option.map_map]
    refine map_eq_true_iff (P := Operator.notContains.Holds (.single v)) id ?_ x
    intro s
    rw [Function.comp_apply, Bool.not_eq_true', ← Bool.not_eq_true]
    exact not_congr (patternMatches_open v.toList s.toList)
  | .startsWith, .single v, _ =>
    refine ⟨_, read?_pattern v rfl, map_eq_true_iff id ?_⟩
    intro s
    exact patternMatches_open_end v.toList s.toList
  | .endsWith, .single v, _ =>
    refine ⟨_, read?_pattern v rfl, map_eq_true_iff id ?_⟩
    intro s
    show patternMatches ([.run] ++ (v.toList.map .plain ++ [])) s.toList = true ↔ _
    rw [List.append_nil]
    exact patternMatches_open_start v.toList s.toList
  | .isIn, .list (t :: ts), _ =>
    exact ⟨_, read?_among t ts, fun x => (truth_among_iff t ts x).1⟩
  | .notIn, .list (t :: ts), _ =>
    exact ⟨_, read?_not_among t ts, fun x => (truth_among_iff t ts x).2⟩

/-- No comparison starts with a parenthesis, so none turns the column
before it into a function. -/
theorem head?_comparisonLexemes (op : Operator) (value : Operand) :
    (comparisonLexemes op value).head? ≠ some (.mark '(') := by
  cases value <;> cases op <;> simp [comparisonLexemes, singleLexemes, Operator.comparison?,
    Operator.pattern?]

/-- The clause of a condition spells a predicate about the field's
expression that is true of the values the operator asks for. -/
theorem exists_predicate {c : Condition} {f : FieldRef} {clause : String}
    (hf : FieldRef.ofPath c.field = .ok f) (h : c.sql = .ok clause)
    (hfits : c.operator.fits c.value = true) :
    ∃ p, Predicate.ofText? clause = some p ∧ p.subject = f.reference
      ∧ ∀ x, p.test.truth x = some true ↔ c.operator.Holds c.value x := by
  obtain ⟨t, hread, htruth⟩ := exists_test hfits
  refine ⟨⟨f.reference, t⟩, ?_, rfl, htruth⟩
  have hpath := Reference.read?_path hf (head?_comparisonLexemes c.operator c.value)
  unfold Predicate.ofText?
  rw [lexemes?_condition h, Option.bind_some, Condition.lexemes, hpath, Option.bind_some]
  simp only [hread, Option.map_some]

-- ============================================================= the law

/-- A condition has a clause exactly when its path is safe and its operand
fits its operator, and its path is what is looked at first.

The clause is true of a row exactly when what the row has for the path's
expression is what the operator asks for. -/
theorem condition_means_its_operator (c : Condition) :
    ((∃ clause, c.sql = .ok clause)
        ↔ (∀ s ∈ pathSegments c.field, isSafeSegment s = true)
          ∧ c.operator.fits c.value = true)
      ∧ (∀ s, (pathSegments c.field).find? (fun s => !isSafeSegment s) = some s →
        c.sql = .error (.unsafePath ⟨c.field, s⟩))
      ∧ ((∀ s ∈ pathSegments c.field, isSafeSegment s = true) →
        c.operator.fits c.value = false → c.sql = .error (.operandMismatch c))
      ∧ ∀ clause, c.sql = .ok clause → ∃ expr field p, pathSql c.field = .ok expr
        ∧ Reference.ofText? expr = some field ∧ Predicate.ofText? clause = some p
        ∧ ∀ value : Reference → Option String,
          p.truth value = some true ↔ c.operator.Holds c.value (value field) := by
  rcases FieldRef.pathSql_cases c.field with ⟨s, hs, hpath⟩ | ⟨hsafe, f, hf, hpath⟩
  -- a path that is not safe is refused before the operand is looked at
  · have hsql : c.sql = .error (.unsafePath ⟨c.field, s⟩) := by
      unfold Condition.sql
      rw [hpath]
    have hunsafe : ¬∀ s ∈ pathSegments c.field, isSafeSegment s = true := by
      intro hall
      have hbad := List.find?_some hs
      rw [hall s (List.mem_of_find?_eq_some hs)] at hbad
      cases hbad
    rw [hsql]
    refine ⟨iff_of_false nofun (fun h => hunsafe h.1), ?_, fun h => absurd h hunsafe, nofun⟩
    intro s' hs'
    rw [Option.some.inj (hs.symm.trans hs')]
  · have hnone : ∀ s, (pathSegments c.field).find? (fun s => !isSafeSegment s) ≠ some s := by
      intro s hs
      have hbad := List.find?_some hs
      rw [hsafe s (List.mem_of_find?_eq_some hs)] at hbad
      cases hbad
    -- with a safe path everything turns on whether the operand fits
    have hfits := Condition.isSome_compareSql? f.sql c.operator c.value
    have hsql := Condition.sql_of_path hpath
    cases hcompare : Condition.compareSql? f.sql c.operator c.value with
    | none =>
      rw [hcompare] at hfits hsql
      have hnot : ¬c.operator.fits c.value = true := by
        rw [← hfits]
        exact Bool.false_ne_true
      rw [hsql]
      exact ⟨iff_of_false nofun (fun h => hnot h.2), fun s hs => absurd hs (hnone s),
        fun _ _ => rfl, nofun⟩
    | some clause =>
      rw [hcompare] at hfits hsql
      refine ⟨iff_of_true ⟨clause, hsql⟩ ⟨hsafe, hfits.symm⟩, fun s hs => absurd hs (hnone s),
        ?_, ?_⟩
      · intro _ hnot
        rw [← hfits] at hnot
        cases hnot
      · intro clause' hclause
        -- the clause is read back from its lexemes, so what it says does not
        -- depend on how it was rendered
        obtain ⟨p, hp, hsubject, htruth⟩ := exists_predicate hf hclause hfits.symm
        refine ⟨f.sql, f.reference, p, hpath, Reference.ofText?_path hf hpath, hp, ?_⟩
        intro value
        unfold Predicate.truth
        rw [hsubject]
        exact htruth (value f.reference)

/-- A text made of everything that patterns and literals give a meaning to
stands for itself; a path with a quote is refused before a list where a
text is needed, and a list where a text is needed is refused. -/
theorem signs_stand_for_themselves :
    (∃ clause p, Condition.sql ⟨"actor.name", .startsWith, .single "5%_\\'"⟩ = .ok clause
        ∧ Predicate.ofText? clause = some p
        ∧ p.truth (fun _ => some "5%_\\' off") = some true
        ∧ p.truth (fun _ => some "50_\\' off") ≠ some true
        ∧ p.truth (fun _ => none) ≠ some true)
      ∧ Condition.sql ⟨"ctx.a'b", .eq, .list []⟩ = .error (.unsafePath ⟨"ctx.a'b", "a'b"⟩)
      ∧ Condition.sql ⟨"actor.name", .eq, .list []⟩
        = .error (.operandMismatch ⟨"actor.name", .eq, .list []⟩) := by
  have hsafe : ∀ s ∈ pathSegments "actor.name", isSafeSegment s = true := by
    decide +kernel
  refine ⟨?_, ?_, ?_⟩
  · obtain ⟨hok, -, -, hmeaning⟩ :=
      condition_means_its_operator ⟨"actor.name", .startsWith, .single "5%_\\'"⟩
    obtain ⟨clause, hclause⟩ := hok.2 ⟨hsafe, rfl⟩
    obtain ⟨_, _, p, -, -, hp, htruth⟩ := hmeaning clause hclause
    refine ⟨clause, p, hclause, hp, ?_, ?_, ?_⟩
    · rw [htruth]
      show "5%_\\'".toList <+: "5%_\\' off".toList
      decide +kernel
    · rw [Ne, htruth]
      show ¬"5%_\\'".toList <+: "50_\\' off".toList
      decide +kernel
    · rw [Ne, htruth]
      exact id
  · exact (condition_means_its_operator ⟨"ctx.a'b", .eq, .list []⟩).2.1 "a'b" (by decide +kernel)
  · exact (condition_means_its_operator ⟨"actor.name", .eq, .list []⟩).2.2.1 hsafe rfl

end EventAnalytics
