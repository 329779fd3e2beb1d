/-
Which queries can be compiled, and which fault is reported of the others.

A query has five parts that may be at fault. `Query.FirstFault` tells which
fault is the first: all parts before it are sound, and within its own part
so is all that stands before it. Since the parts are rendered one after the
other, and none reads what an earlier one was rendered to, an error of the
chain is an error of one part after sound ones (`parts_eq_error_iff`); what
remains is one lemma per part that tells when it is sound, and one that
tells what it is refused for.
-/
import EventAnalytics.Proofs.Path.Resolution
import EventAnalytics.Proofs.Query.Parts

namespace EventAnalytics

open Time (Instant)

-- ======================================================== sound parts

/-- The keys that name a granularity. -/
def Granularity.keys : List String := ["hour", "day", "week", "month"]

/-- Conditions that can be rendered. -/
def Condition.HasClause (c : Condition) : Prop :=
  ∃ clause, c.sql = .ok clause

namespace Query

/-- The bucket, if there is one, is one of the four. -/
def HasKnownBucket (q : Query) : Prop :=
  ∀ key, q.groupBy = some key → key ∈ Granularity.keys

def HasSafePaths (q : Query) : Prop :=
  ∀ path ∈ q.breakdownBy, IsSafePath path

/-- The metrics that the query shows have safe names, whether it names them
itself or not. -/
def HasSafeMetrics (q : Query) (d : MetricDefaults) : Prop :=
  ∀ name ∈ q.resolvedMetrics d, IsSafePath name

/-- The range, if there is one, can be read. -/
def HasRange (q : Query) (now : Instant) : Prop :=
  ∀ text, q.timeRange = some text → ∃ r, TimeRange.ofText text now = .ok r

def HasClauses (q : Query) : Prop :=
  ∀ c ∈ q.filters, c.HasClause

/-- The fault of a query that has only sound parts before it. -/
inductive FirstFault (q : Query) (d : MetricDefaults) (now : Instant) : QueryError → Prop where
  | bucket {key : String} (hkey : q.groupBy = some key)
    (hunknown : key ∉ Granularity.keys) :
    FirstFault q d now (.unknownGranularity key)
  | dimension {path segment : String} (hbucket : q.HasKnownBucket)
    (hpath : IsFirstWithout IsSafePath q.breakdownBy path)
    (hsegment : IsLeftmostUnsafe path segment) :
    FirstFault q d now (.unsafePath ⟨path, segment⟩)
  | metric {name segment : String} (hbucket : q.HasKnownBucket) (hpaths : q.HasSafePaths)
    (hname : IsFirstWithout IsSafePath (q.resolvedMetrics d) name)
    (hsegment : IsLeftmostUnsafe name segment) :
    FirstFault q d now (.unsafePath ⟨name, segment⟩)
  | range {text : String} {e : RangeError} (hbucket : q.HasKnownBucket)
    (hpaths : q.HasSafePaths) (hmetrics : q.HasSafeMetrics d)
    (htext : q.timeRange = some text) (hbad : TimeRange.ofText text now = .error e) :
    FirstFault q d now (.badRange e)
  | field {c : Condition} {segment : String} (hbucket : q.HasKnownBucket)
    (hpaths : q.HasSafePaths) (hmetrics : q.HasSafeMetrics d) (hrange : q.HasRange now)
    (hc : IsFirstWithout Condition.HasClause q.filters c)
    (hsegment : IsLeftmostUnsafe c.field segment) :
    FirstFault q d now (.unsafePath ⟨c.field, segment⟩)
  | operand {c : Condition} (hbucket : q.HasKnownBucket) (hpaths : q.HasSafePaths)
    (hmetrics : q.HasSafeMetrics d) (hrange : q.HasRange now)
    (hc : IsFirstWithout Condition.HasClause q.filters c) (hfield : IsSafePath c.field) :
    FirstFault q d now (.operandMismatch c)

end Query

/-- A metric can be shown just when its name is safe. -/
theorem exists_metricSql_iff (name : String) :
    (∃ text, metricSql name = .ok text) ↔ IsSafePath name := by
  simp only [metricSql, exists_map_iff, Pointer.exists_along_iff]

/-- A list of metrics is taken when all names are safe. -/
theorem exists_metricsSql_iff {names : List String} :
    (∃ ps, metricsSql names = .ok ps) ↔ ∀ name ∈ names, IsSafePath name := by
  simp only [metricsSql, exists_mapM_iff, exists_metricSql_iff]

/-- A list of metrics is refused for its first unsafe name. -/
theorem metricsSql_eq_error_iff {names : List String} {e : UnsafeSegment} :
    metricsSql names = .error e
      ↔ ∃ name, IsFirstWithout IsSafePath names name
        ∧ ∃ s, IsLeftmostUnsafe name s ∧ e = ⟨name, s⟩ := by
  simp only [metricsSql, mapM_eq_error_iff exists_metricSql_iff, metricSql, map_eq_error_iff,
    Pointer.along_eq_error_iff]

namespace Compiler

variable {c : Compiler} {q : Query} {now : Instant} {e : QueryError}

-- =========================================================== each part

/-- A bucket is known by its key, or its key is the fault. -/
theorem bucketOf_cases (key : String) :
    (key ∈ Granularity.keys ∧ ∃ g, bucketOf key = .ok g)
      ∨ (key ∉ Granularity.keys ∧ bucketOf key = .error (.unknownGranularity key)) := by
  have hkeys : Granularity.keys = Granularity.all.map Granularity.key := rfl
  unfold bucketOf
  rw [hkeys]
  cases hg : Granularity.ofKey? key with
  | some g =>
    have hkey : g.key = key := by simpa using List.find?_some hg
    rw [← hkey]
    exact .inl ⟨List.mem_map_of_mem (List.mem_of_find?_eq_some hg), g, rfl⟩
  | none =>
    refine .inr ⟨fun hkey => ?_, rfl⟩
    obtain ⟨g, -, rfl⟩ := List.mem_map.1 hkey
    cases hg.symm.trans g.ofKey?_key

/-- The bucket of a query is taken when its key is known. -/
theorem exists_bucket_iff :
    (∃ b, optional bucketOf q.groupBy = .ok b) ↔ q.HasKnownBucket := by
  rw [exists_optional_iff]
  refine forall₂_congr fun key _ => ?_
  rcases bucketOf_cases key with ⟨hkey, hg⟩ | ⟨hkey, hbad⟩
  · exact iff_of_true hg hkey
  · refine iff_of_false ?_ hkey
    intro h
    obtain ⟨g, hg⟩ := h
    cases hbad.symm.trans hg

/-- The bucket fails only with a key that is not known. -/
theorem bucket_eq_error_iff :
    optional bucketOf q.groupBy = .error e ↔ ∃ key, q.groupBy = some key
      ∧ key ∉ Granularity.keys ∧ e = .unknownGranularity key := by
  rw [optional_eq_error_iff]
  refine exists_congr fun key => and_congr_right fun _ => ?_
  rcases bucketOf_cases key with ⟨hkey, g, hg⟩ | ⟨hkey, hbad⟩
  · exact iff_of_false (by rw [hg]; nofun) fun h => h.1 hkey
  · rw [hbad]
    exact ⟨fun h => ⟨hkey, (Except.error.inj h).symm⟩, fun h => h.2 ▸ rfl⟩

/-- A dimension is taken when its path is safe. -/
theorem exists_dimensionSql_iff (path : String) :
    (∃ expr, dimensionSql path = .ok expr) ↔ IsSafePath path := by
  simp only [dimensionSql, exists_mapError_iff, FieldRef.exists_pathSql_iff]

/-- A dimension fails with the leftmost segment that is not safe. -/
theorem dimensionSql_eq_error_iff {path : String} :
    dimensionSql path = .error e
      ↔ ∃ s, IsLeftmostUnsafe path s ∧ e = .unsafePath ⟨path, s⟩ := by
  simp only [dimensionSql, mapError_eq_error_iff, FieldRef.pathSql_eq_error_iff]
  constructor
  · intro h
    obtain ⟨_, ⟨s, hs, rfl⟩, rfl⟩ := h
    exact ⟨s, hs, rfl⟩
  · intro h
    obtain ⟨s, hs, rfl⟩ := h
    exact ⟨_, ⟨s, hs, rfl⟩, rfl⟩

theorem exists_projectionsSql_iff {names : List String} :
    (∃ ms, projectionsSql names = .ok ms) ↔ ∀ name ∈ names, IsSafePath name := by
  simp only [projectionsSql, exists_mapError_iff, exists_metricsSql_iff]

/-- Metrics fail with the first name that is not safe, and of that with its
leftmost segment. -/
theorem projectionsSql_eq_error_iff {names : List String} :
    projectionsSql names = .error e ↔ ∃ name, IsFirstWithout IsSafePath names name
      ∧ ∃ s, IsLeftmostUnsafe name s ∧ e = .unsafePath ⟨name, s⟩ := by
  simp only [projectionsSql, mapError_eq_error_iff, metricsSql_eq_error_iff]
  constructor
  · intro h
    obtain ⟨_, ⟨name, hname, s, hs, rfl⟩, rfl⟩ := h
    exact ⟨name, hname, s, hs, rfl⟩
  · intro h
    obtain ⟨name, hname, s, hs, rfl⟩ := h
    exact ⟨_, ⟨name, hname, s, hs, rfl⟩, rfl⟩

theorem exists_range_iff :
    (∃ r, optional (rangeOf now) q.timeRange = .ok r) ↔ q.HasRange now := by
  simp only [exists_optional_iff, rangeOf, exists_mapError_iff, Query.HasRange]

/-- A range fails with what is wrong with its text. -/
theorem range_eq_error_iff :
    optional (rangeOf now) q.timeRange = .error e ↔ ∃ text bad, q.timeRange = some text
      ∧ TimeRange.ofText text now = .error bad ∧ e = .badRange bad := by
  simp only [optional_eq_error_iff, rangeOf, mapError_eq_error_iff, exists_and_left]

/-- A condition is taken when it has a clause. -/
theorem exists_conditionSql_iff (cond : Condition) :
    (∃ clause, conditionSql cond = .ok clause) ↔ cond.HasClause := by
  simp only [conditionSql, exists_mapError_iff, Condition.HasClause]

/-- A condition without a clause is refused for its path, or for its operand
when the path is safe. -/
theorem conditionSql_eq_error_iff {cond : Condition} :
    conditionSql cond = .error e
      ↔ (∃ s, IsLeftmostUnsafe cond.field s ∧ e = .unsafePath ⟨cond.field, s⟩)
        ∨ (IsSafePath cond.field ∧ ¬cond.HasClause ∧ e = .operandMismatch cond) := by
  rw [← dimensionSql_eq_error_iff, ← exists_dimensionSql_iff, ← exists_conditionSql_iff]
  -- the path is looked at first, and its outcome is the same for a dimension
  cases hpath : pathSql cond.field with
  | error bad =>
    have hdimension : dimensionSql cond.field = .error (.unsafePath bad) := by
      rw [dimensionSql, hpath]
      rfl
    have hcondition : conditionSql cond = .error (.unsafePath bad) := by
      simp only [conditionSql, Condition.sql, hpath]
      rfl
    rw [hdimension, hcondition]
    refine ⟨.inl, ?_⟩
    intro h
    rcases h with h | ⟨⟨expr, hexpr⟩, -⟩
    · exact h
    · cases hexpr
  | ok expr =>
    have hdimension : dimensionSql cond.field = .ok expr := by
      rw [dimensionSql, hpath]
      rfl
    rw [hdimension, conditionSql, Condition.sql_of_path hpath]
    -- with a safe path only the operand can be at fault
    cases Condition.compareSql? expr cond.operator cond.value with
    | some clause =>
      constructor
      · intro h
        cases h
      · intro h
        rcases h with h | ⟨-, hnone, -⟩
        · cases h
        · exact absurd ⟨clause, rfl⟩ hnone
    | none =>
      constructor
      · intro h
        cases h
        refine .inr ⟨⟨expr, rfl⟩, ?_, rfl⟩
        intro h
        obtain ⟨clause, hclause⟩ := h
        cases hclause
      · intro h
        rcases h with h | ⟨-, -, rfl⟩
        · cases h
        · rfl

/-- The clause of the event types is there or not needed. -/
theorem typeCondition_hasClause {types : Option TypeFilter} {cond : Condition}
    (h : typeCondition? types = some cond) : cond.HasClause := by
  have hmem : cond ∈ (typeCondition? types).toList := h ▸ List.mem_singleton_self _
  obtain ⟨clause, -, hclause⟩ := exists_of_mapM_eq_ok (mapM_typeCondition types) hmem
  exact ⟨clause, mapError_eq_ok hclause⟩

-- =========================================================== all parts

/-- All parts are taken when nothing is wrong with any of them. -/
theorem exists_parts_iff :
    (∃ p, c.parts q now = .ok p) ↔ q.HasKnownBucket ∧ q.HasSafePaths
      ∧ q.HasSafeMetrics c.defaults ∧ q.HasRange now ∧ q.HasClauses := by
  simp only [parts, exists_bind_iff, mapM_typeCondition, pure, Except.pure, Except.ok.injEq,
    exists_eq', and_true, true_and, exists_and_right, exists_bucket_iff, exists_mapM_iff,
    exists_dimensionSql_iff, exists_projectionsSql_iff, exists_range_iff,
    exists_conditionSql_iff, Query.HasSafePaths, Query.HasSafeMetrics, Query.HasClauses]

/-- An error of the chain is an error of one part, after parts that are
sound. -/
theorem parts_eq_error_iff :
    c.parts q now = .error e
      ↔ optional bucketOf q.groupBy = .error e ∨ q.HasKnownBucket
        ∧ (q.breakdownBy.mapM dimensionSql = .error e ∨ q.HasSafePaths
        ∧ (projectionsSql (q.resolvedMetrics c.defaults) = .error e ∨ q.HasSafeMetrics c.defaults
        ∧ (optional (rangeOf now) q.timeRange = .error e ∨ q.HasRange now
        ∧ q.filters.mapM conditionSql = .error e))) := by
  -- what a part is rendered to matters to no other, so it comes out of each
  -- quantifier as the part being sound
  simp only [parts, bind_eq_error_iff, mapM_typeCondition, pure, Except.pure, reduceCtorEq,
    and_false, exists_const, or_false, false_or, Except.ok.injEq, exists_eq', true_and,
    exists_and_right, exists_bucket_iff, exists_mapM_iff, exists_dimensionSql_iff,
    exists_projectionsSql_iff, exists_range_iff, Query.HasSafePaths, Query.HasSafeMetrics]

/-- The parts fail with the first fault of the query. -/
theorem parts_eq_error_iff_firstFault :
    c.parts q now = .error e ↔ q.FirstFault c.defaults now e := by
  rw [parts_eq_error_iff, bucket_eq_error_iff, mapM_eq_error_iff exists_dimensionSql_iff,
    projectionsSql_eq_error_iff, range_eq_error_iff, mapM_eq_error_iff exists_conditionSql_iff]
  simp only [dimensionSql_eq_error_iff, conditionSql_eq_error_iff]
  -- the faults one after the other: each has all parts before it sound
  constructor
  · intro h
    rcases h with ⟨key, hkey, hunknown, rfl⟩ | ⟨hbucket, h⟩
    · exact .bucket hkey hunknown
    rcases h with ⟨path, hpath, s, hs, rfl⟩ | ⟨hpaths, h⟩
    · exact .dimension hbucket hpath hs
    rcases h with ⟨name, hname, s, hs, rfl⟩ | ⟨hmetrics, h⟩
    · exact .metric hbucket hpaths hname hs
    rcases h with ⟨text, bad, htext, hbad, rfl⟩ | ⟨hrange, cond, hc, h⟩
    · exact .range hbucket hpaths hmetrics htext hbad
    rcases h with ⟨s, hs, rfl⟩ | ⟨hfield, -, rfl⟩
    · exact .field hbucket hpaths hmetrics hrange hc hs
    · exact .operand hbucket hpaths hmetrics hrange hc hfield
  · intro h
    cases h with
    | bucket hkey hunknown => exact .inl ⟨_, hkey, hunknown, rfl⟩
    | dimension hbucket hpath hs => exact .inr ⟨hbucket, .inl ⟨_, hpath, _, hs, rfl⟩⟩
    | metric hbucket hpaths hname hs =>
      exact .inr ⟨hbucket, .inr ⟨hpaths, .inl ⟨_, hname, _, hs, rfl⟩⟩⟩
    | range hbucket hpaths hmetrics htext hbad =>
      exact .inr ⟨hbucket, .inr ⟨hpaths, .inr ⟨hmetrics, .inl ⟨_, _, htext, hbad, rfl⟩⟩⟩⟩
    | field hbucket hpaths hmetrics hrange hc hs =>
      refine .inr ⟨hbucket, .inr ⟨hpaths, .inr ⟨hmetrics, .inr ⟨hrange, _, hc, ?_⟩⟩⟩⟩
      exact .inl ⟨_, hs, rfl⟩
    | operand hbucket hpaths hmetrics hrange hc hfield =>
      refine .inr ⟨hbucket, .inr ⟨hpaths, .inr ⟨hmetrics, .inr ⟨hrange, _, hc, ?_⟩⟩⟩⟩
      exact .inr ⟨hfield, hc.not_self, rfl⟩

theorem exists_compile_iff :
    (∃ sql, c.compile q now = .ok sql) ↔ q.HasKnownBucket ∧ q.HasSafePaths
      ∧ q.HasSafeMetrics c.defaults ∧ q.HasRange now ∧ q.HasClauses := by
  rw [compile, exists_map_iff, statement_eq, ← exists_parts_iff]
  exact exists_map_iff

/-- Compiling fails as its parts do. -/
theorem compile_eq_error_iff :
    c.compile q now = .error e ↔ q.FirstFault c.defaults now e := by
  rw [compile, map_eq_error_iff, statement_eq, ← parts_eq_error_iff_firstFault]
  exact map_eq_error_iff

end Compiler

-- ============================================================= the law

/-- A query is compiled just when its bucket, its dimensions, its metrics,
its range and its conditions are all sound. Otherwise the error is the
first fault in this order, from left to right within a list, and an unsafe
path is reported with its leftmost unsafe segment. The event types are
never at fault. -/
theorem first_fault_is_reported (c : Compiler) (q : Query) (now : Instant) :
    ((∃ sql, c.compile q now = .ok sql)
        ↔ q.HasKnownBucket ∧ q.HasSafePaths ∧ q.HasSafeMetrics c.defaults ∧ q.HasRange now
          ∧ q.HasClauses)
      ∧ (∀ e, c.compile q now = .error e ↔ q.FirstFault c.defaults now e)
      ∧ ∀ types condition, Compiler.typeCondition? types = some condition →
        condition.HasClause :=
  ⟨Compiler.exists_compile_iff, fun _ => Compiler.compile_eq_error_iff,
    fun _ _ => Compiler.typeCondition_hasClause⟩

/-- A query whose second dimension, metric, range and condition are all at
fault. -/
def manyFaults : Query where
  types := some (.anyOf [])
  timeRange := some "3y"
  filters := [.isIn "type" []]
  groupBy := some "week"
  breakdownBy := ["product", "payload.a..b c"]
  metrics := some ["it's"]

/-- The dimension is reported, with the empty segment and not with the one
after it. Without dimensions the metric is reported; and without its own
metrics the query has the default ones, so that the range is. -/
theorem faults_come_out_one_by_one :
    Compiler.compile {} manyFaults .epoch = .error (.unsafePath ⟨"payload.a..b c", ""⟩)
      ∧ Compiler.compile {} { manyFaults with breakdownBy := [] } .epoch
        = .error (.unsafePath ⟨"it's", "it's"⟩)
      ∧ Compiler.compile {} { manyFaults with breakdownBy := [], metrics := none } .epoch
        = .error (.badRange (.unknownUnit 'y' "3y")) := by
  have hbucket : manyFaults.HasKnownBucket := by
    rintro _ ⟨⟩
    decide
  refine ⟨((first_fault_is_reported {} _ .epoch).2.1 _).2 ?_,
    ((first_fault_is_reported {} _ .epoch).2.1 _).2 ?_,
    ((first_fault_is_reported {} _ .epoch).2.1 _).2 ?_⟩
  · have hpath : IsFirstWithout IsSafePath manyFaults.breakdownBy "payload.a..b c" :=
      ⟨["product"], [], rfl, by decide +kernel, by decide +kernel⟩
    have hsegment : IsLeftmostUnsafe "payload.a..b c" "" :=
      ⟨["payload", "a"], ["b c"], by decide +kernel, by decide +kernel, by decide +kernel⟩
    exact .dimension hbucket hpath hsegment
  · have hname : IsFirstWithout IsSafePath ["it's"] "it's" :=
      ⟨[], [], rfl, nofun, by decide +kernel⟩
    have hsegment : IsLeftmostUnsafe "it's" "it's" :=
      ⟨[], [], by decide +kernel, nofun, by decide +kernel⟩
    exact .metric hbucket nofun hname hsegment
  · have hmetrics : ∀ name ∈ MetricDefaults.builtinFallback, IsSafePath name := by
      decide +kernel
    exact .range hbucket nofun hmetrics rfl (by rfl)

end EventAnalytics
