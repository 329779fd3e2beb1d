/-
The lexemes of a compiled query, part by part.

For every part of a statement there are two descriptions: the text that
the compiler writes, and here the lexemes that the text is meant to have,
in which whatever the caller wrote stands whole inside one quoted lexeme.
The theorems say that cutting the text gives exactly these lexemes. They
follow the rendering from the inside out (pointers, fields, conditions,
projections, the range, the clauses of a statement), and each is a chain
of `lexemes?_append` along the text, since every piece either settles or
is followed by one that stands apart.

Texts that are written between quotes without doubling are the ones to
watch: the segments of a pointer, the name of a metric and an instant.
None of them can hold a quote, the first two because they were checked,
the last because of how it is printed.
-/
import EventAnalytics.Proofs.Path.Resolution
import EventAnalytics.Proofs.Query.Parts
import EventAnalytics.Proofs.Sql.Lexeme
import EventAnalytics.Proofs.Time.Written
import EventAnalytics.Settings.Analytics

namespace EventAnalytics

open Sql
open Time (Instant)

-- ============================================================= fields

def pointerText (segments : List String) : String :=
  "$" ++ String.join (segments.map fun s => "." ++ s)

/-- The lexemes of the expression that reads a place in a document. -/
def extractionLexemes (d : Document) (segments : List String) : List Lexeme :=
  [.word "json_extract_string", .mark '(', .word d.column.name, .mark ',',
    .quoted .literal (pointerText segments), .mark ')']

/-- The lexemes of the expression that reads a field. -/
def pathLexemes (path : String) : List Lexeme :=
  match FieldRef.ofPath path with
  | .ok (.direct c) | .ok (.actor c) | .ok (.source c) => [.word c.name]
  | .ok (.inside d _) => extractionLexemes d (pathSegments path).tail
  | .ok (.fallback _) => extractionLexemes .payload (pathSegments path)
  | .error _ => []

/-- The name of a column is one word. -/
theorem column_isWord (c : Column) : lexemes? c.name = some [.word c.name] := by
  cases c <;> decide +kernel

/-- An extraction is a call with its column and its pointer, which is a
literal. -/
theorem lexemes?_extraction (d : Document) (p : Pointer) :
    lexemes? (FieldRef.extraction d p) = some (extractionLexemes d p.segments) := by
  have hform : FieldRef.extraction d p
      = "json_extract_string(" ++ (d.column.name ++ (", " ++ (literal p.text ++ ")"))) := by
    rw [literal_of_not_mem p.isUnquoted_text.1, FieldRef.extraction_eq]
    simp only [String.append_assoc]
  have hopen : Settles "json_extract_string(" [.word "json_extract_string", .mark '('] := by
    decide +kernel
  have hend : lexemes? ")" = some [.mark ')'] := by decide +kernel
  rw [hform]
  apply hopen.append
  apply joins_comma.append (column_isWord d.column)
  exact lexemes?_append (lexemes?_literal p.text) hend rfl

/-- The expression for a path has the lexemes of its field. -/
theorem lexemes?_pathSql {path expr : String} (h : pathSql path = .ok expr) :
    lexemes? expr = some (pathLexemes path) := by
  obtain ⟨f, hf, rfl⟩ := map_eq_ok h
  rcases FieldRef.ofPath_cases hf with ⟨c, hc, -⟩ | ⟨d, r, rfl, hr⟩ | ⟨r, rfl, hr⟩
  · cases f with
    | direct c => simpa [pathLexemes, hf, FieldRef.sql] using column_isWord c
    | actor c => simpa [pathLexemes, hf, FieldRef.sql] using column_isWord c
    | source c => simpa [pathLexemes, hf, FieldRef.sql] using column_isWord c
    | inside d r => cases hc
    | fallback r => cases hc
  · simp only [pathLexemes, hf, ← hr]
    exact lexemes?_extraction d r
  · simp only [pathLexemes, hf, ← hr]
    exact lexemes?_extraction .payload r

-- ========================================================= conditions

/-- The lexemes of a list of literals between parentheses. -/
def literalListLexemes (texts : List String) : List Lexeme :=
  .mark '(' :: List.intercalate [.mark ','] (texts.map fun t => [.quoted .literal t])
    ++ [.mark ')']

/-- The pattern that a comparison of texts is made with. -/
def patternText (shape : Operator.PatternShape) (text : String) : String :=
  (if shape.openStart then "%" else "") ++ String.ofList (patternChars text.toList)
    ++ (if shape.openEnd then "%" else "")

/-- The lexemes of a comparison with a single text, after its field's. -/
def singleLexemes (op : Operator) (text : String) : List Lexeme :=
  match op.comparison?, op.pattern? with
  | some sign, _ => sign.toList.map .mark ++ [.quoted .literal text]
  | none, some shape =>
    (if shape.negated then [.word "NOT", .word "LIKE"] else [.word "LIKE"])
      ++ [.quoted .literal (patternText shape text), .word "ESCAPE", .quoted .literal "\\"]
  | none, none => []

/-- The lexemes of a comparison, after its field's. -/
def comparisonLexemes (op : Operator) (value : Operand) : List Lexeme :=
  match op, value with
  | .isSet, _ => [.word "IS", .word "NOT", .word "NULL"]
  | .isNotSet, _ => [.word "IS", .word "NULL"]
  | .isIn, .list ts => .word "IN" :: literalListLexemes ts
  | .notIn, .list ts => .word "NOT" :: .word "IN" :: literalListLexemes ts
  | op, .single t => singleLexemes op t
  | _, _ => []

def Condition.lexemes (c : Condition) : List Lexeme :=
  pathLexemes c.field ++ comparisonLexemes c.operator c.value

/-- A list of texts is a list of literals in brackets. -/
theorem lexemes?_literalList (texts : List String) :
    lexemes? (Condition.literalList texts) = some (literalListLexemes texts) := by
  have hopen : Settles "(" [.mark '('] := by decide +kernel
  have hend : lexemes? ")" = some [.mark ')'] := by decide +kernel
  have hitems : (texts.map literal).map lexemes?
      = (texts.map fun t => [Lexeme.quoted .literal t]).map some := by
    simp [lexemes?_literal]
  have hlist := lexemes?_intercalate joins_comma hitems
  have h := hopen.append (lexemes?_append hlist hend rfl)
  unfold Condition.literalList
  rw [String.append_assoc, h]
  rfl

/-- Escaping goes character by character. -/
theorem escaped_append (a b : String) : escaped (a ++ b) = escaped a ++ escaped b := by
  apply String.toList_injective
  simp [escaped, doubled]

/-- A comparison with a pattern is one with a literal: the signs at its
ends need no escaping. -/
theorem patternSql_eq (field : String) (shape : Operator.PatternShape) (text : String) :
    Condition.patternSql field shape text
      = field ++ ((if shape.negated then " NOT LIKE " else " LIKE ")
          ++ (literal (patternText shape text) ++ " ESCAPE '\\'")) := by
  have hnegated : (if shape.negated then " NOT LIKE '" else " LIKE '")
      = (if shape.negated then " NOT LIKE " else " LIKE ") ++ "'" := by
    cases shape.negated <;> rfl
  have hsign : ∀ b : Bool, escaped (if b then "%" else "") = if b then "%" else "" := by
    intro b
    cases b <;> rfl
  have hend : "' ESCAPE '\\'" = "'" ++ " ESCAPE '\\'" := rfl
  unfold Condition.patternSql literal patternText escapedPattern
  rw [escaped_append, escaped_append, hsign, hsign, hnegated, hend]
  simp only [String.append_assoc]

/-- A comparison with one text is the field, the operator and one literal. -/
theorem lexemes?_singleSql {field text clause : String} {lf : List Lexeme} {op : Operator}
    (hf : lexemes? field = some lf) (h : Condition.singleSql? field op text = some clause) :
    lexemes? clause = some (lf ++ singleLexemes op text) := by
  unfold Condition.singleSql? at h
  unfold singleLexemes
  cases hsign : op.comparison? with
  | some sign =>
    rw [hsign] at h
    cases h
    have hmarks : Joins (" " ++ sign ++ " ") (sign.toList.map .mark) := by
      cases op <;> cases hsign <;> decide +kernel
    have hassoc : field ++ " " ++ sign ++ " " ++ literal text
        = field ++ ((" " ++ sign ++ " ") ++ literal text) := by
      simp only [String.append_assoc]
    rw [hassoc]
    exact hmarks.append hf (lexemes?_literal text)
  | none =>
    rw [hsign] at h
    obtain ⟨shape, hshape, rfl⟩ := Option.map_eq_some_iff.1 h
    have hlike : Joins (if shape.negated then " NOT LIKE " else " LIKE ")
        (if shape.negated then [.word "NOT", .word "LIKE"] else [.word "LIKE"]) := by
      cases shape.negated <;> decide +kernel
    have hescape : lexemes? " ESCAPE '\\'" = some [.word "ESCAPE", .quoted .literal "\\"] := by
      decide +kernel
    rw [hshape, patternSql_eq]
    apply hlike.append hf
    exact lexemes?_append (lexemes?_literal (patternText shape text)) hescape rfl

/-- A test of membership is the field, its keyword and the literals. -/
theorem lexemes?_membership {field keyword : String} {lf lk : List Lexeme}
    (hf : lexemes? field = some lf) (hk : Joins keyword lk) (texts : List String) :
    lexemes? (field ++ keyword ++ Condition.literalList texts)
      = some (lf ++ (lk ++ literalListLexemes texts)) := by
  rw [String.append_assoc]
  exact hk.append hf (lexemes?_literalList texts)

/-- A comparison has the lexemes of its field and then its own. -/
theorem lexemes?_compareSql {field clause : String} {lf : List Lexeme} {op : Operator}
    {value : Operand} (hf : lexemes? field = some lf)
    (h : Condition.compareSql? field op value = some clause) :
    lexemes? clause = some (lf ++ comparisonLexemes op value) := by
  unfold Condition.compareSql? at h
  split at h
  · cases h
    have hk : lexemes? " IS NOT NULL" = some [.word "IS", .word "NOT", .word "NULL"] := by
      decide +kernel
    exact lexemes?_append hf hk rfl
  · cases h
    have hk : lexemes? " IS NULL" = some [.word "IS", .word "NULL"] := by decide +kernel
    exact lexemes?_append hf hk rfl
  · cases h
    have hk : Joins " IN " [.word "IN"] := by decide +kernel
    exact lexemes?_membership hf hk _
  · cases h
    have hk : Joins " NOT IN " [.word "NOT", .word "IN"] := by decide +kernel
    exact lexemes?_membership hf hk _
  · next t hset hnot =>
    rw [lexemes?_singleSql hf h]
    unfold comparisonLexemes
    split <;> first | rfl | simp_all
  · cases h

/-- A condition's clause has the lexemes of the condition. -/
theorem lexemes?_condition {c : Condition} {clause : String} (h : c.sql = .ok clause) :
    lexemes? clause = some c.lexemes := by
  unfold Condition.sql at h
  cases hpath : pathSql c.field with
  | error e =>
    rw [hpath] at h
    cases h
  | ok field =>
    rw [hpath] at h
    cases hcompare : Condition.compareSql? field c.operator c.value with
    | none =>
      simp only [hcompare] at h
      cases h
    | some clause' =>
      simp only [hcompare] at h
      cases h
      exact lexemes?_compareSql (lexemes?_pathSql hpath) hcompare

-- ======================================================== projections

/-- The lexemes of a projection under a quoted name. -/
def namedLexemes (expr : List Lexeme) (name : String) : List Lexeme :=
  expr ++ [.word "AS", .quoted .identifier name]

/-- The lexemes of the label of a time bucket. -/
def bucketLexemes (g : Granularity) : List Lexeme :=
  [.word "to_char", .mark '(', .word "date_trunc", .mark '(', .quoted .literal g.key,
    .mark ',', .word "ts", .mark ')', .mark ',', .quoted .literal g.labelFormat, .mark ')',
    .word "AS", .word "bucket"]

/-- The lexemes of the number of events. -/
def countLexemes : List Lexeme :=
  namedLexemes [.word "COUNT", .mark '(', .mark '*', .mark ')'] "count"

def metricLexemes (name : String) : List Lexeme :=
  namedLexemes ([.word "SUM", .mark '(', .word "TRY_CAST", .mark '(']
    ++ extractionLexemes .payload (pathSegments name)
    ++ [.word "AS", .word "DOUBLE", .mark ')', .mark ')']) name

/-- The label of a bucket is told by the bucket alone. -/
theorem lexemes?_bucket (g : Granularity) :
    lexemes? (Compiler.bucketProjection g) = some (bucketLexemes g) := by
  cases g <;> decide +kernel

theorem lexemes?_count : lexemes? Compiler.countProjection = some countLexemes := by
  decide +kernel

/-- A projection under a name ends in that name, quoted. -/
theorem lexemes?_aliased {expr name : String} {le : List Lexeme} (he : lexemes? expr = some le) :
    lexemes? (aliased expr (identifier name)) = some (namedLexemes le name) := by
  have has : Joins " AS " [.word "AS"] := by decide +kernel
  unfold aliased
  rw [String.append_assoc]
  exact has.append he (lexemes?_identifier name)

/-- A dimension is projected under its own path. -/
theorem lexemes?_dimension {path expr : String} (h : Compiler.dimensionSql path = .ok expr) :
    lexemes? (Compiler.dimensionProjection expr path)
      = some (namedLexemes (pathLexemes path) path) :=
  lexemes?_aliased (lexemes?_pathSql (mapError_eq_ok h))

/-- A metric that can be projected has only safe segments, so quoting its
name without doubling is quoting it. -/
theorem metricSql_ok {name text : String} (h : metricSql name = .ok text) :
    ∃ p : Pointer, p.segments = pathSegments name
      ∧ text = aliased ("SUM(TRY_CAST(" ++ (FieldRef.extraction .payload p ++ " AS DOUBLE))"))
        (identifier name) := by
  obtain ⟨p, hp, rfl⟩ := map_eq_ok h
  have hsegments := Pointer.segments_of_along hp
  have hsafe : ∀ s ∈ pathSegments name, isSafeSegment s = true :=
    hsegments ▸ List.all_eq_true.1 p.safe
  have hend : " AS DOUBLE)) AS \"" = " AS DOUBLE))" ++ (" AS " ++ "\"") := rfl
  refine ⟨p, hsegments, ?_⟩
  unfold aliased
  rw [identifier_of_not_mem (isUnquoted_of_safe_segments hsafe).2]
  simp only [hend, String.append_assoc]

/-- A metric is projected under its own name. -/
theorem lexemes?_metric {name text : String} (h : metricSql name = .ok text) :
    lexemes? text = some (metricLexemes name) := by
  obtain ⟨p, hsegments, rfl⟩ := metricSql_ok h
  have hopen : Settles "SUM(TRY_CAST(" [.word "SUM", .mark '(', .word "TRY_CAST", .mark '('] := by
    decide +kernel
  have hcast : lexemes? " AS DOUBLE))" = some [.word "AS", .word "DOUBLE", .mark ')', .mark ')'] := by
    decide +kernel
  have hsum := hopen.append (lexemes?_append (lexemes?_extraction .payload p) hcast rfl)
  rw [lexemes?_aliased hsum, hsegments]
  simp [metricLexemes, namedLexemes]

-- ============================================================== ranges

/-- The lexemes of the clause of a range. -/
def rangeLexemes (r : TimeRange) : List Lexeme :=
  [.word "ts", .mark '>', .mark '=', .quoted .literal r.start.sqlText, .word "AND",
    .word "ts", .mark '<', .mark '=', .quoted .literal r.stop.sqlText]

/-- A range compares a column, whatever it is, with the literals of its
ends. -/
theorem lexemes?_rangeSql {column : String} {lc : List Lexeme} (hc : lexemes? column = some lc)
    (r : TimeRange) :
    lexemes? (r.sql column)
      = some (lc ++ ([.mark '>', .mark '='] ++ ([.quoted .literal r.start.sqlText]
        ++ ([.word "AND"] ++ (lc ++ ([.mark '<', .mark '=']
        ++ [.quoted .literal r.stop.sqlText])))))) := by
  have hform : r.sql column
      = column ++ (" >= " ++ (literal r.start.sqlText
        ++ (" AND " ++ (column ++ (" <= " ++ literal r.stop.sqlText))))) := by
    have hopen : " >= '" = " >= " ++ "'" := rfl
    have hclose : "' AND " = "'" ++ " AND " := rfl
    have hopen' : " <= '" = " <= " ++ "'" := rfl
    unfold TimeRange.sql
    rw [literal_of_not_mem r.start.quote_not_mem_sqlText,
      literal_of_not_mem r.stop.quote_not_mem_sqlText, hopen, hclose, hopen']
    simp only [String.append_assoc]
  have hbelow : Joins " >= " [.mark '>', .mark '='] := by decide +kernel
  have habove : Joins " <= " [.mark '<', .mark '='] := by decide +kernel
  have hlast := habove.append hc (lexemes?_literal r.stop.sqlText)
  rw [hform]
  exact hbelow.append hc (joins_and.append (lexemes?_literal r.start.sqlText) hlast)

/-- A range compares the time of an event from both sides. -/
theorem lexemes?_range (r : TimeRange) :
    lexemes? (r.sql Column.ts.name) = some (rangeLexemes r) :=
  lexemes?_rangeSql (column_isWord .ts) r

-- ========================================================= statements

/-- The lexemes of a clause, or none when there are no items. -/
def clauseLexemes (keyword separator : List Lexeme) (items : List (List Lexeme)) : List Lexeme :=
  if items.isEmpty then [] else keyword ++ List.intercalate separator items

def limitLexemes : Option Nat → List Lexeme
  | some n => [.word "LIMIT", .word (String.ofList (Text.numeral n))]
  | none => []

/-- A clause is its keyword and its items, or nothing at all, and stands
apart either way. -/
theorem lexemes?_clause (keyword : String) {sep : String} {lk lsep : List Lexeme}
    (hk : Joins (" " ++ keyword ++ " ") lk) (hsep : Joins sep lsep)
    {items : List String} {lists : List (List Lexeme)} (h : items.map lexemes? = lists.map some) :
    lexemes? (clause keyword sep items) = some (clauseLexemes lk lsep lists)
      ∧ isApart (clause keyword sep items) = true := by
  unfold clause clauseLexemes
  cases items with
  | nil =>
    cases lists with
    | nil => exact ⟨lexemes?_empty, rfl⟩
    | cons l ls => cases h
  | cons i is =>
    cases lists with
    | nil => cases h
    | cons l ls =>
      exact ⟨hk.settles.append (lexemes?_intercalate hsep h), hk.isApart_append _⟩

/-- A number is one word. -/
theorem lexemes?_numeral (n : Nat) :
    lexemes? (String.ofList (Text.numeral n)) = some [.word (String.ofList (Text.numeral n))] := by
  have hne : String.ofList (Text.numeral n) ≠ "" := by
    intro he
    have hnil := congrArg String.toList he
    rw [String.toList_ofList] at hnil
    exact Text.numeral_ne_nil n hnil
  apply lexemes?_word hne
  rw [String.toList_ofList, List.all_eq_true]
  intro c hc
  have hdigit := List.all_eq_true.1 (Text.all_isDigit_numeral n) c hc
  simp [isNameChar, hdigit]

/-- The lexemes of a limit, which stands apart as clauses do. -/
theorem lexemes?_limit (limit : Option Nat) :
    lexemes? (match limit with
        | some n => " LIMIT " ++ String.ofList (Text.numeral n)
        | none => "") = some (limitLexemes limit)
      ∧ isApart (match limit with
        | some n => " LIMIT " ++ String.ofList (Text.numeral n)
        | none => "") = true := by
  cases limit with
  | none => exact ⟨lexemes?_empty, rfl⟩
  | some n =>
    have hlimit : Joins " LIMIT " [.word "LIMIT"] := by decide +kernel
    exact ⟨hlimit.settles.append (lexemes?_numeral n), hlimit.isApart_append _⟩

/-- A statement that projects something has the lexemes of its clauses. -/
theorem lexemes?_select {s : Select} {lt : List Lexeme}
    {projections predicates grouping ordering : List (List Lexeme)}
    (htable : lexemes? s.table = some lt) (hne : s.projections ≠ [])
    (hprojections : s.projections.map lexemes? = projections.map some)
    (hpredicates : s.predicates.map lexemes? = predicates.map some)
    (hgrouping : s.grouping.map lexemes? = grouping.map some)
    (hordering : (s.ordering.map SortKey.sql).map lexemes? = ordering.map some) :
    lexemes? s.sql = some ([.word "SELECT"] ++ (List.intercalate [.mark ','] projections
      ++ ([.word "FROM"] ++ (lt
        ++ (clauseLexemes [.word "WHERE"] [.word "AND"] predicates
          ++ (clauseLexemes [.word "GROUP", .word "BY"] [.mark ','] grouping
            ++ (clauseLexemes [.word "ORDER", .word "BY"] [.mark ','] ordering
              ++ limitLexemes s.limit))))))) := by
  have hselect : Settles "SELECT " [.word "SELECT"] := by decide +kernel
  have hfrom : Joins " FROM " [.word "FROM"] := by decide +kernel
  have hwhere : Joins " WHERE " [.word "WHERE"] := by decide +kernel
  have hgroup : Joins " GROUP BY " [.word "GROUP", .word "BY"] := by decide +kernel
  have horder : Joins " ORDER BY " [.word "ORDER", .word "BY"] := by decide +kernel
  obtain ⟨hlimit, alimit⟩ := lexemes?_limit s.limit
  obtain ⟨horderBy, aorder⟩ := lexemes?_clause "ORDER BY" horder joins_comma hordering
  obtain ⟨hgroupBy, agroup⟩ := lexemes?_clause "GROUP BY" hgroup joins_comma hgrouping
  obtain ⟨hpreds, awhere⟩ := lexemes?_clause "WHERE" hwhere joins_and hpredicates
  have hlist := lexemes?_intercalate joins_comma hprojections
  have hselectList : s.selectList = String.intercalate ", " s.projections := by
    unfold Select.selectList
    rw [if_neg]
    simpa using hne
  unfold Select.sql
  rw [hselectList]
  simp only [String.append_assoc]
  -- each clause stands apart from the one before it, with all that follows
  have aorder' := isApart_append aorder alimit
  have agroup' := isApart_append agroup aorder'
  have awhere' := isApart_append awhere agroup'
  apply hselect.append
  apply hfrom.append hlist
  apply lexemes?_append htable _ awhere'
  apply lexemes?_append hpreds _ agroup'
  apply lexemes?_append hgroupBy _ aorder'
  exact lexemes?_append horderBy hlimit alimit

end EventAnalytics
