/-
The columns of a compiled statement.

A query shows its time bucket, its dimensions, the number of events and
its metrics, in this order (`Query.columns`). Every column has its
projection (`map_sql?`), and those that are not computed over a group have
a key that the rows are grouped by (`filterMap_key?`).

Two things are read off the text of a projection and not off the query:
whether it calls an aggregate function, and what its column is called. The
first is so just for the columns without a key (`isAggregate_sql?`). The
second is the bucket's or the count's fixed name, or else a text of the
caller as it stands (`outputName?_sql?`). Nothing keeps the four kinds of
names apart, so columns have names of their own only if the caller sees to
it (`nodup_names_iff`).
-/
import EventAnalytics.Proofs.Query.Lexemes
import Mathlib.Data.List.Nodup

namespace EventAnalytics

open Sql
open Time (Instant)

-- ============================================================ columns

/-- A column of a statement, as its query asks for it. -/
inductive OutputColumn where
  | bucket (key : String)
  | dimension (path : String)
  | count
  | metric (name : String)
  deriving DecidableEq, Repr

namespace OutputColumn

/-- The projection of the column, if it can be rendered. -/
def sql? : OutputColumn → Option String
  | bucket key => (Granularity.ofKey? key).map Compiler.bucketProjection
  | dimension path =>
    (pathSql path).toOption.map fun expr => Compiler.dimensionProjection expr path
  | count => some Compiler.countProjection
  | metric name => (metricSql name).toOption

/-- What rows are grouped by for the column. There is nothing for a column
that is computed over a group. -/
def key? : OutputColumn → Option String
  | bucket _ => some bucketName
  | dimension path => (pathSql path).toOption
  | count | metric _ => none

def name : OutputColumn → String
  | bucket _ => bucketName
  | dimension path => path
  | count => countName
  | metric name => name

end OutputColumn

/-- The columns that a query shows. -/
def Query.columns (q : Query) (d : MetricDefaults) : List OutputColumn :=
  q.groupBy.toList.map .bucket ++ q.breakdownBy.map .dimension
    ++ .count :: (q.resolvedMetrics d).map .metric

namespace Compiler.Parts.Rendered

variable {c : Compiler} {q : Query} {now : Instant} {p : Parts}

/-- Every column has its projection. -/
theorem map_sql? (h : p.Rendered c q now) :
    (c.assembled q p).projections.map some
      = (q.columns c.defaults).map OutputColumn.sql? := by
  have hbucket : (p.bucket.toList.map bucketProjection).map some
      = (q.groupBy.toList.map .bucket).map OutputColumn.sql? := by
    have hkeys := congrArg (List.map (Option.map bucketProjection)) (optional_map_some h.bucket)
    rw [List.map_map, List.map_map] at hkeys ⊢
    simpa only [Function.comp_def, Option.map_some, bucketOf_toOption, OutputColumn.sql?]
      using hkeys
  have hdimensions : (List.zipWith dimensionProjection p.dimensions q.breakdownBy).map some
      = (q.breakdownBy.map .dimension).map OutputColumn.sql? := by
    rw [List.map_map]
    apply map_zipWith_of_mapM _ h.dimensions
    intro path expr he
    simp [OutputColumn.sql?, mapError_eq_ok he, Except.toOption]
  have hmetrics : p.metrics.map some
      = ((q.resolvedMetrics c.defaults).map .metric).map OutputColumn.sql? := by
    rw [List.map_map]
    apply map_eq_of_mapM _ h.metrics
    intro name text ht
    simp [OutputColumn.sql?, ht, Except.toOption]
  unfold assembled Query.columns
  rw [List.map_append, List.map_append, List.map_cons, List.map_append, List.map_append,
    List.map_cons, hbucket, hdimensions, hmetrics]
  rfl

/-- Rows are grouped by the keys of the columns. -/
theorem filterMap_key? (h : p.Rendered c q now) :
    (c.assembled q p).grouping = (q.columns c.defaults).filterMap OutputColumn.key? := by
  have hbucket : (q.groupBy.toList.map .bucket).filterMap OutputColumn.key?
      = p.bucket.toList.map fun _ => bucketName := by
    have hsome := optional_isSome h.bucket
    cases hb : p.bucket <;> cases hk : q.groupBy <;> rw [hb, hk] at hsome <;>
      first | rfl | cases hsome
  -- The dimensions are rendered without a fault, so their expressions are
  -- those that the paths have.
  have hdimensions : (q.breakdownBy.map .dimension).filterMap OutputColumn.key?
      = p.dimensions := by
    have hrendered : p.dimensions.map some
        = q.breakdownBy.map fun path => (pathSql path).toOption := by
      apply map_eq_of_mapM _ h.dimensions
      intro path expr he
      rw [mapError_eq_ok he]
      rfl
    calc (q.breakdownBy.map .dimension).filterMap OutputColumn.key?
        = (q.breakdownBy.map fun path => (pathSql path).toOption).filterMap id := by
          rw [List.filterMap_map, List.filterMap_map]
          rfl
      _ = (p.dimensions.map some).filterMap id := by rw [hrendered]
      _ = p.dimensions := by
          rw [List.filterMap_map]
          exact List.filterMap_some
  have haggregates : (OutputColumn.count :: (q.resolvedMetrics c.defaults).map .metric).filterMap
      OutputColumn.key? = [] := by
    simp [OutputColumn.key?, List.filterMap_eq_nil_iff]
  unfold assembled Query.columns
  rw [List.filterMap_append, List.filterMap_append, hbucket, hdimensions, haggregates,
    List.append_nil]

end Compiler.Parts.Rendered

-- ===================================================== read off the text

/-- Whether an expression calls an aggregate function. -/
def Sql.isAggregate (expr : String) : Bool :=
  match lexemes? expr with
  | some (.word f :: .mark '(' :: _) => f == "COUNT" || f == "SUM"
  | _ => false

/-- The name that a lexeme spells, without its quotes. -/
def Sql.Lexeme.name? : Lexeme → Option String
  | .word n | .quoted .identifier n => some n
  | _ => none

/-- The name that a projection gives to its column. -/
def Sql.outputName? (projection : String) : Option String :=
  match (lexemes? projection).map List.reverse with
  | some (n :: .word "AS" :: _) => n.name?
  | _ => none

/-- What reads a field is the name of a column, or a call. -/
theorem pathLexemes_cases {path expr : String} (h : pathSql path = .ok expr) :
    (∃ c : Column, pathLexemes path = [.word c.name])
      ∨ ∃ d segments, pathLexemes path = extractionLexemes d segments := by
  obtain ⟨f, hf, -⟩ := map_eq_ok h
  unfold pathLexemes
  rw [hf]
  cases f with
  | direct c => exact .inl ⟨c, rfl⟩
  | actor c => exact .inl ⟨c, rfl⟩
  | source c => exact .inl ⟨c, rfl⟩
  | inside d p => exact .inr ⟨d, _, rfl⟩
  | fallback p => exact .inr ⟨.payload, _, rfl⟩

/-- A column is named by what stands behind its last `AS`. -/
theorem outputName?_of_lexemes {text : String} {expr : List Lexeme} {n : Lexeme}
    (h : lexemes? text = some (expr ++ [.word "AS", n])) : outputName? text = n.name? := by
  simp [outputName?, h]

namespace OutputColumn

variable {col : OutputColumn} {text : String}

theorem lexemes?_dimension_sql? {path : String} (h : (dimension path).sql? = some text) :
    (∃ expr, pathSql path = .ok expr)
      ∧ lexemes? text = some (namedLexemes (pathLexemes path) path) := by
  obtain ⟨expr, he, rfl⟩ := Option.map_eq_some_iff.1 h
  have hpath := toOption_eq_some he
  refine ⟨⟨expr, hpath⟩, lexemes?_dimension ?_⟩
  rw [Compiler.dimensionSql, hpath]
  rfl

/-- A column has no key just when its projection calls an aggregate
function. -/
theorem isAggregate_sql? (h : col.sql? = some text) : isAggregate text = col.key?.isNone := by
  cases col with
  | bucket key =>
    obtain ⟨g, -, rfl⟩ := Option.map_eq_some_iff.1 h
    unfold isAggregate
    rw [lexemes?_bucket]
    rfl
  | dimension path =>
    obtain ⟨⟨expr, hpath⟩, htext⟩ := lexemes?_dimension_sql? h
    have hkey : (dimension path).key? = some expr := by
      rw [key?, hpath]
      rfl
    unfold isAggregate
    rw [htext, hkey]
    rcases pathLexemes_cases hpath with ⟨c, hc⟩ | ⟨d, segments, hc⟩
    · rw [hc]
      rfl
    · rw [hc]
      rfl
  | count =>
    cases h
    unfold isAggregate
    rw [lexemes?_count]
    rfl
  | metric name =>
    unfold isAggregate
    rw [lexemes?_metric (toOption_eq_some h)]
    rfl

/-- What a projection calls its column is the name of the column. -/
theorem outputName?_sql? (h : col.sql? = some text) : outputName? text = some col.name := by
  cases col with
  | bucket key =>
    obtain ⟨g, -, rfl⟩ := Option.map_eq_some_iff.1 h
    unfold outputName?
    rw [lexemes?_bucket]
    rfl
  | dimension path => exact outputName?_of_lexemes (lexemes?_dimension_sql? h).2
  | count =>
    cases h
    exact outputName?_of_lexemes lexemes?_count
  | metric name => exact outputName?_of_lexemes (lexemes?_metric (toOption_eq_some h))

end OutputColumn

-- ============================================================== names

/-- The names of the columns that a query shows. -/
def Query.columnNames (q : Query) (d : MetricDefaults) : List String :=
  (q.columns d).map OutputColumn.name

/-- The name that an expression is, if it is nothing else. -/
def Sql.nameOf? (expr : String) : Option String :=
  match lexemes? expr with
  | some [l] => l.name?
  | _ => none

theorem Query.columnNames_eq (q : Query) (d : MetricDefaults) :
    q.columnNames d = (q.groupBy.toList.map fun _ => bucketName) ++ q.breakdownBy
      ++ countName :: q.resolvedMetrics d := by
  simp [Query.columnNames, Query.columns, OutputColumn.name, Function.comp_def]

/-- The names are distinct just when the caller's are, among each other and
from the fixed ones that are in use. -/
theorem nodup_names_iff (q : Query) (d : MetricDefaults) :
    (q.columnNames d).Nodup ↔ q.breakdownBy.Nodup ∧ (q.resolvedMetrics d).Nodup
      ∧ (∀ path ∈ q.breakdownBy, path ∉ q.resolvedMetrics d)
      ∧ (countName ∉ q.breakdownBy ∧ countName ∉ q.resolvedMetrics d)
      ∧ (q.groupBy ≠ none → bucketName ∉ q.breakdownBy ∧ bucketName ∉ q.resolvedMetrics d) := by
  have hreserved : bucketName ≠ countName := by decide
  -- the name of the count stands between the two lists of the caller
  have hmiddle : (q.breakdownBy ++ countName :: q.resolvedMetrics d).Nodup
      ↔ (countName ∉ q.breakdownBy ∧ countName ∉ q.resolvedMetrics d)
        ∧ q.breakdownBy.Nodup ∧ (q.resolvedMetrics d).Nodup
        ∧ ∀ path ∈ q.breakdownBy, ∀ name ∈ q.resolvedMetrics d, path ≠ name := by
    rw [List.nodup_middle, List.nodup_cons, List.mem_append, not_or, List.nodup_append]
  have happart : (∀ path ∈ q.breakdownBy, ∀ name ∈ q.resolvedMetrics d, path ≠ name)
      ↔ ∀ path ∈ q.breakdownBy, path ∉ q.resolvedMetrics d := by
    constructor
    · intro h path hpath hname
      exact h path hpath path hname rfl
    · rintro h path hpath _ hname rfl
      exact h path hpath hname
  rw [Query.columnNames_eq]
  cases q.groupBy with
  | none =>
    show (q.breakdownBy ++ countName :: q.resolvedMetrics d).Nodup ↔ _
    rw [hmiddle, happart]
    grind
  | some key =>
    show (bucketName :: (q.breakdownBy ++ countName :: q.resolvedMetrics d)).Nodup ↔ _
    rw [List.nodup_cons, List.mem_append, List.mem_cons, hmiddle, happart]
    grind

/-- The names of the columns stand in the projections. -/
theorem Compiler.Parts.Rendered.map_outputName? {c : Compiler} {q : Query} {now : Instant}
    {p : Parts} (h : p.Rendered c q now) :
    (c.assembled q p).projections.map outputName? = (q.columnNames c.defaults).map some := by
  rw [Query.columnNames, List.map_map]
  exact map_eq_of_map (fun _ _ htext => OutputColumn.outputName?_sql? htext) h.map_sql?

/-- The count is always among the columns. -/
theorem countName_mem_columnNames (q : Query) (d : MetricDefaults) :
    countName ∈ q.columnNames d := by
  rw [Query.columnNames_eq]
  exact List.mem_append_right _ List.mem_cons_self

theorem bucketName_mem_columnNames {q : Query} (h : q.groupBy ≠ none) (d : MetricDefaults) :
    bucketName ∈ q.columnNames d := by
  obtain ⟨key, hkey⟩ := Option.ne_none_iff_exists'.1 h
  rw [Query.columnNames_eq, hkey]
  exact List.mem_cons_self

/-- A statement is sorted by the name of one of its columns, if it is. -/
theorem Compiler.Parts.Rendered.nameOf?_ordering {c : Compiler} {q : Query} {now : Instant}
    {p : Parts} (h : p.Rendered c q now) :
    ∀ k ∈ (c.assembled q p).ordering,
      ∃ n ∈ q.columnNames c.defaults, nameOf? k.expr = some n := by
  have hcount : nameOf? (identifier countName) = some countName := by decide +kernel
  have hbucket : nameOf? bucketName = some bucketName := by decide +kernel
  have hsome := optional_isSome h.bucket
  intro k hk
  replace hk : k ∈ sortKeys p.bucket q.breakdownBy := hk
  cases hb : p.bucket with
  | some g =>
    rw [hb] at hk hsome
    have hgroup : q.groupBy ≠ none := Option.isSome_iff_ne_none.1 hsome.symm
    cases List.mem_singleton.1 hk
    exact ⟨bucketName, bucketName_mem_columnNames hgroup _, hbucket⟩
  | none =>
    rw [hb] at hk
    cases hpaths : q.breakdownBy with
    | nil =>
      rw [hpaths] at hk
      cases hk
    | cons path paths =>
      rw [hpaths] at hk
      cases List.mem_singleton.1 hk
      exact ⟨countName, countName_mem_columnNames q _, hcount⟩

-- ============================================================= the law

/-- The columns of a compiled query are called `bucket` if it has a bucket,
as its paths, `count` and as its metrics, in this order.

No two of them are called the same exactly when the paths are distinct and
the metrics are, no path is a metric, and none of either is `count`, or
`bucket` where there is a bucket. Then what the statement is sorted by, and
the bucket that it is grouped by, is the name of one column. -/
theorem column_names_are_the_callers {c : Compiler} {q : Query} {now : Instant} {sql : String}
    (h : c.compile q now = .ok sql) :
    ∃ s, c.statement q now = .ok s ∧ sql = s.sql
      ∧ s.projections.map outputName? = (q.columnNames c.defaults).map some
      ∧ ((q.columnNames c.defaults).Nodup ↔ q.breakdownBy.Nodup
        ∧ (q.resolvedMetrics c.defaults).Nodup
        ∧ (∀ path ∈ q.breakdownBy, path ∉ q.resolvedMetrics c.defaults)
        ∧ (countName ∉ q.breakdownBy ∧ countName ∉ q.resolvedMetrics c.defaults)
        ∧ (q.groupBy ≠ none →
          bucketName ∉ q.breakdownBy ∧ bucketName ∉ q.resolvedMetrics c.defaults))
      ∧ ((q.columnNames c.defaults).Nodup →
        (∀ k ∈ s.ordering, ∃ n, nameOf? k.expr = some n
          ∧ (q.columnNames c.defaults).count n = 1)
        ∧ (q.groupBy ≠ none → s.grouping.head? = some bucketName
          ∧ (q.columnNames c.defaults).count bucketName = 1)) := by
  obtain ⟨s, hs, rfl⟩ := Compiler.statement_of_compile h
  obtain ⟨p, hp, rfl⟩ := Compiler.statement_eq_ok hs
  refine ⟨_, hs, rfl, hp.map_outputName?, nodup_names_iff q c.defaults, ?_⟩
  intro hnodup
  have hone : ∀ n ∈ q.columnNames c.defaults, (q.columnNames c.defaults).count n = 1 :=
    fun n hn => List.count_eq_one_of_mem hnodup hn
  constructor
  · intro k hk
    obtain ⟨n, hn, hname⟩ := hp.nameOf?_ordering k hk
    exact ⟨n, hname, hone n hn⟩
  · intro hgroup
    obtain ⟨key, hkey⟩ := Option.ne_none_iff_exists'.1 hgroup
    refine ⟨?_, hone _ (bucketName_mem_columnNames hgroup _)⟩
    rw [hp.filterMap_key?, Query.columns, hkey]
    rfl

/-- With a bucket, a dimension and a metric, everything has a name of its
own. -/
theorem daily_costs_are_told_apart :
    let q : Query := { groupBy := some "day", breakdownBy := ["payload.model"],
                       metrics := some ["totalCost"] }
    ∃ s, Compiler.statement {} q .epoch = .ok s
      ∧ s.projections.map outputName?
        = [some "bucket", some "payload.model", some "count", some "totalCost"]
      ∧ ∀ k ∈ s.ordering, ∃ n, nameOf? k.expr = some n
        ∧ (q.columnNames MetricDefaults.builtin).count n = 1 := by
  intro q
  have hok : (Compiler.compile {} q .epoch).toOption.isSome = true := by decide +kernel
  obtain ⟨sql, hsql⟩ := Option.isSome_iff_exists.1 hok
  obtain ⟨s, hs, -, hnames, hiff, hone⟩ := column_names_are_the_callers (toOption_eq_some hsql)
  refine ⟨s, hs, hnames, (hone (hiff.2 ?_)).1⟩
  decide

/-- A dimension may be called as the number of events is, and the statement
is sorted by the name of both. -/
theorem count_may_be_a_dimension :
    let q : Query := { breakdownBy := ["count"] }
    q.breakdownBy.Nodup ∧ (q.resolvedMetrics MetricDefaults.builtin).Nodup
      ∧ ∃ s, Compiler.statement {} q .epoch = .ok s
        ∧ Compiler.compile {} q .epoch = .ok s.sql
        ∧ s.projections.map outputName?
          = ["count", "count", "totalCost", "totalTokens", "durationMs"].map some
        ∧ s.ordering.map (fun k => nameOf? k.expr) = [some "count"]
        ∧ ¬(s.projections.map outputName?).Nodup := by
  intro q
  have hsorted : (Compiler.statement {} q .epoch).toOption.map
      (fun s => s.ordering.map fun k => nameOf? k.expr) = some [some "count"] := by
    decide +kernel
  obtain ⟨s, hs, hordering⟩ := Option.map_eq_some_iff.1 hsorted
  have hstatement := toOption_eq_some hs
  obtain ⟨p, hp, rfl⟩ := Compiler.statement_eq_ok hstatement
  refine ⟨by decide, by decide, _, hstatement, ?_, hp.map_outputName?, hordering, ?_⟩
  · rw [Compiler.compile, hstatement]
    rfl
  · rw [hp.map_outputName?]
    decide

end EventAnalytics
