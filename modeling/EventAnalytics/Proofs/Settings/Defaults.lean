/-
Default metrics that can always be shown.

What a query shows when it names no metric is one of the lists of a table:
the metrics of a row, or the fallback (`forTypes_mem_lists`). So it is
enough to look at the lists. In a table that is usable none is empty and
every name in them is one that a projection can be built from, which is
what settings are checked for (`isUsable_metricDefaults`) and what holds of
the built-in rows too.

The check and the projection agree on names (`metricsSql_of_safe`), so with
the settings of a document that was accepted nothing about a metric can
keep a query from being compiled: it is compiled unless something else in
it is at fault.
-/
import EventAnalytics.Proofs.Metric.Selection
import EventAnalytics.Proofs.Settings.Validation

namespace EventAnalytics

open Time (Instant)

-- ============================================================ metrics

/-- Safe metrics have one projection each. -/
theorem metricsSql_of_safe {names : List String} (h : ∀ n ∈ names, isSafeMetric n = true) :
    ∃ projections, metricsSql names = .ok projections
      ∧ names.map metricSql = projections.map .ok := by
  obtain ⟨projections, hall⟩ := exists_metricsSql_iff.2 fun n hn => List.all_eq_true.1 (h n hn)
  exact ⟨projections, hall, mapM_eq_ok_iff.1 hall⟩

-- ============================================================= tables

namespace MetricDefaults

/-- All lists of metrics in a table. -/
def lists (d : MetricDefaults) : List (List String) := d.fallback :: d.rows.map MetricRow.metrics

/-- Whether every list of a table names metrics, all of them safe. -/
def isUsable (d : MetricDefaults) : Bool :=
  d.lists.all fun names => !names.isEmpty && names.all isSafeMetric

theorem isUsable_iff {d : MetricDefaults} :
    d.isUsable = true ↔ ∀ names ∈ d.lists, names ≠ [] ∧ ∀ n ∈ names, isSafeMetric n = true := by
  simp [isUsable]

theorem metricsAt_mem_lists (d : MetricDefaults) (i : Nat) : d.metricsAt i ∈ d.lists := by
  unfold metricsAt
  cases hrow : d.rows[i]? with
  | none => exact List.mem_cons_self
  | some r => exact List.mem_cons_of_mem _ (List.mem_map_of_mem (List.mem_of_getElem? hrow))

/-- Whatever the types, the metrics are one of the lists. -/
theorem forTypes_mem_lists (d : MetricDefaults) (types : Option TypeFilter) :
    d.forTypes types ∈ d.lists := by
  obtain ⟨i, -, hmetrics⟩ := d.exists_decides (requestedTypes types)
  rw [forTypes_eq, hmetrics]
  exact d.metricsAt_mem_lists i

/-- A usable table has metrics for all types, and their projections. -/
theorem projections_of_isUsable {d : MetricDefaults} (h : d.isUsable = true)
    (types : Option TypeFilter) :
    d.forTypes types ≠ []
      ∧ ∃ projections, metricsSql (d.forTypes types) = .ok projections
        ∧ (d.forTypes types).map metricSql = projections.map .ok := by
  obtain ⟨hne, hsafe⟩ := isUsable_iff.1 h _ (d.forTypes_mem_lists types)
  exact ⟨hne, metricsSql_of_safe hsafe⟩

end MetricDefaults

-- ========================================================= validation

namespace AnalyticsSettings

/-- Settings without a fault describe a usable table. -/
theorem isUsable_metricDefaults {s : AnalyticsSettings} (h : s.fault? = none) :
    s.metricDefaults.isUsable = true := by
  have hsound := fault?_eq_none_iff.1 h
  have hrows : ∀ row ∈ s.metricDefaults.rows, AreMetrics row.metrics := by
    unfold metricDefaults
    cases hcustom : s.rows with
    | some rows => exact (hsound.rows rows hcustom).metrics
    | none =>
      show ∀ row ∈ MetricDefaults.builtinRows,
        row.metrics ≠ [] ∧ ∀ name ∈ row.metrics, IsSafePath name
      decide +kernel
  apply MetricDefaults.isUsable_iff.2
  intro names hnames
  simp only [isSafeMetric_iff]
  rcases List.mem_cons.1 hnames with rfl | hnames
  · exact hsound.fallback
  · obtain ⟨row, hrow, rfl⟩ := List.mem_map.1 hnames
    exact hrows row hrow

/-- The compiler that the settings describe. -/
def compiler (s : AnalyticsSettings) : Compiler := ⟨s.table, s.metricDefaults⟩

end AnalyticsSettings

/-- Settings are accepted without a fault only. -/
theorem Settings.fault?_of_ofText {text : String} {settings : Settings}
    (h : ofText text = .ok settings) : settings.analytics.fault? = none := by
  unfold ofText at h
  split at h
  · cases h
  · split at h
    · cases h
    · next hnone =>
      cases h
      exact hnone

-- ======================================================== compilation

/-- Something in a query, other than its metrics, that cannot be compiled. -/
inductive Query.Fault (q : Query) (now : Instant) (e : QueryError) : Prop where
  | bucket {key : String} (hkey : q.groupBy = some key) (h : Compiler.bucketOf key = .error e)
  | dimension {path : String} (hpath : path ∈ q.breakdownBy)
    (h : Compiler.dimensionSql path = .error e)
  | range {text : String} (htext : q.timeRange = some text)
    (h : Compiler.rangeOf now text = .error e)
  | filter {c : Condition} (hc : c ∈ q.filters) (h : Compiler.conditionSql c = .error e)

namespace Compiler

theorem mem_of_mapM_eq_error {α β : Type} {f : α → Except QueryError β} {as : List α}
    {e : QueryError} (h : as.mapM f = .error e) : ∃ a ∈ as, f a = .error e := by
  obtain ⟨before, a, later, rfl, -, ha⟩ := mapM_eq_error h
  exact ⟨a, by simp, ha⟩

/-- A query whose metrics can be shown is refused for something else. -/
theorem fault_of_parts_eq_error {c : Compiler} {q : Query} {now : Instant} {e : QueryError}
    {projections : List String}
    (hmetrics : metricsSql (q.resolvedMetrics c.defaults) = .ok projections)
    (h : c.parts q now = .error e) : q.Fault now e := by
  rcases parts_eq_error_iff.1 h with hbucket | ⟨-, h⟩
  · obtain ⟨key, hkey, hfault⟩ := optional_eq_error hbucket
    exact .bucket hkey hfault
  rcases h with hdimensions | ⟨-, h⟩
  · obtain ⟨path, hpath, hfault⟩ := mem_of_mapM_eq_error hdimensions
    exact .dimension hpath hfault
  rcases h with hshown | ⟨-, h⟩
  · unfold projectionsSql at hshown
    rw [hmetrics] at hshown
    cases hshown
  rcases h with hrange | ⟨-, hfilters⟩
  · obtain ⟨text, htext, hfault⟩ := optional_eq_error hrange
    exact .range htext hfault
  · obtain ⟨condition, hcondition, hfault⟩ := mem_of_mapM_eq_error hfilters
    exact .filter hcondition hfault

/-- A query with all parts rendered has no fault. -/
theorem Parts.Rendered.not_fault {c : Compiler} {q : Query} {now : Instant} {p : Parts}
    (h : p.Rendered c q now) (e : QueryError) : ¬q.Fault now e := by
  intro hfault
  cases hfault with
  | bucket hkey hbad =>
    have hbucket := h.bucket
    simp only [hkey, optional, hbad] at hbucket
    cases hbucket
  | dimension hpath hbad =>
    obtain ⟨expr, -, hexpr⟩ := exists_of_mapM_eq_ok h.dimensions hpath
    rw [hbad] at hexpr
    cases hexpr
  | range htext hbad =>
    have hrange := h.range
    simp only [htext, optional, hbad] at hrange
    cases hrange
  | filter hc hbad =>
    obtain ⟨clause, -, hclause⟩ := exists_of_mapM_eq_ok h.filters hc
    rw [hbad] at hclause
    cases hclause

/-- A query whose metrics can be shown is compiled unless something else is
at fault. -/
theorem compile_of_metrics {c : Compiler} {q : Query} {projections : List String}
    (hmetrics : metricsSql (q.resolvedMetrics c.defaults) = .ok projections) (now : Instant) :
    (∀ e, c.compile q now = .error e → q.Fault now e)
      ∧ ((∃ sql, c.compile q now = .ok sql) ↔ ∀ e, ¬q.Fault now e) := by
  have herror : ∀ e, c.compile q now = .error e → q.Fault now e := by
    intro e h
    have hstatement := map_eq_error h
    rw [statement_eq] at hstatement
    exact fault_of_parts_eq_error hmetrics (map_eq_error hstatement)
  refine ⟨herror, ?_, ?_⟩
  · rintro ⟨sql, h⟩ e
    obtain ⟨p, hp, -⟩ := compile_eq_ok h
    exact hp.not_fault e
  · intro hnone
    cases h : c.compile q now with
    | error e => exact absurd (herror e h) (hnone e)
    | ok sql => exact ⟨sql, rfl⟩

end Compiler

-- ============================================================= the law

/-- Settings that are the default or were read from a document.

Whatever the types, there are default metrics, and each has its projection.
So a query that names no metric is refused only for what else is in it, and
for nothing when nothing else is at fault; and its statement has the
projections of the default metrics, of which there is at least one. -/
theorem default_metrics_always_compile {settings : Settings}
    (h : settings = {} ∨ ∃ text, Settings.ofText text = .ok settings) :
    (∀ types, settings.analytics.metricDefaults.forTypes types ≠ []
        ∧ ∃ projections,
          metricsSql (settings.analytics.metricDefaults.forTypes types) = .ok projections
          ∧ (settings.analytics.metricDefaults.forTypes types).map metricSql
            = projections.map .ok)
      ∧ ∀ (q : Query) (now : Instant), (q.metrics = none ∨ q.metrics = some []) →
        (∀ e, settings.analytics.compiler.compile q now = .error e → q.Fault now e)
        ∧ ((∃ sql, settings.analytics.compiler.compile q now = .ok sql)
          ↔ ∀ e, ¬q.Fault now e)
        ∧ ∀ sql, settings.analytics.compiler.compile q now = .ok sql →
          ∃ s others projections, settings.analytics.compiler.statement q now = .ok s
            ∧ sql = s.sql ∧ s.projections = others ++ projections ∧ projections ≠ []
            ∧ (settings.analytics.metricDefaults.forTypes q.types).map metricSql
              = projections.map .ok := by
  -- the built-in settings are checked like those of any document
  have hfault : settings.analytics.fault? = none := by
    rcases h with rfl | ⟨text, htext⟩
    · decide +kernel
    · exact Settings.fault?_of_ofText htext
  have husable := AnalyticsSettings.isUsable_metricDefaults hfault
  refine ⟨MetricDefaults.projections_of_isUsable husable, ?_⟩
  intro q now hnone
  -- with no metric named, the defaults stand in
  have hresolved : q.resolvedMetrics settings.analytics.metricDefaults
      = settings.analytics.metricDefaults.forTypes q.types := by
    unfold Query.resolvedMetrics
    rcases hnone with hnone | hnone <;> rw [hnone]
  obtain ⟨hne, projections, hmetrics, hshown⟩ :=
    MetricDefaults.projections_of_isUsable husable q.types
  rw [← hresolved] at hmetrics
  obtain ⟨herror, hiff⟩ :=
    Compiler.compile_of_metrics (c := settings.analytics.compiler) hmetrics now
  refine ⟨herror, hiff, ?_⟩
  intro sql hsql
  obtain ⟨s, hs, rfl⟩ := Compiler.statement_of_compile hsql
  obtain ⟨p, hp, rfl⟩ := Compiler.statement_eq_ok hs
  have hp' : p.metrics = projections := Except.ok.inj (hp.metrics.symm.trans hmetrics)
  -- the metrics come last among the projections
  have hlast : (settings.analytics.compiler.assembled q p).projections
      = p.bucket.toList.map Compiler.bucketProjection
        ++ List.zipWith Compiler.dimensionProjection p.dimensions q.breakdownBy
        ++ [Compiler.countProjection] ++ projections := by
    rw [← hp']
    simp [Compiler.assembled]
  refine ⟨_, _, projections, hs, rfl, hlast, ?_, hshown⟩
  rintro rfl
  exact hne (List.map_eq_nil_iff.1 hshown)

/-- A document with a fallback of its own, and without any row. -/
def fallbackOnly : String :=
  "[analytics]\nfallback_metrics = [\"latencyMs\"]\nmetric_defaults = []\n"

/-- Without rows, the fallback is shown for types that the built-in rows
know. -/
theorem fallback_is_shown_without_rows :
    ∃ settings sql, Settings.ofText fallbackOnly = .ok settings
      ∧ settings.analytics.metricDefaults.forTypes (some (.one "llm.chat")) = ["latencyMs"]
      ∧ settings.analytics.compiler.compile { types := some (.one "llm.chat") } .epoch
        = .ok sql := by
  have hread : (Settings.ofText fallbackOnly).toOption.map Settings.analytics
      = some ⟨"events", ["latencyMs"], some []⟩ := by
    decide +kernel
  obtain ⟨settings, hs, hanalytics⟩ := Option.map_eq_some_iff.1 hread
  have htext := toOption_eq_some hs
  obtain ⟨-, hiff, -⟩ := (default_metrics_always_compile (.inr ⟨_, htext⟩)).2
    { types := some (.one "llm.chat") } .epoch (.inl rfl)
  obtain ⟨sql, hsql⟩ := hiff.2 (by rintro e (⟨⟨⟩⟩ | ⟨⟨⟩⟩ | ⟨⟨⟩⟩ | ⟨⟨⟩⟩))
  refine ⟨settings, sql, htext, ?_, hsql⟩
  rw [hanalytics]
  rfl

end EventAnalytics
