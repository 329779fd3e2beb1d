/-
Metrics read what paths read.

The name of a metric is a path inside the payload. Three places look at such
a name, each in its own way: the projection builds a pointer from it, the
resolution of `payload.` and the name resolves a path, and the check of
settings only asks whether the name is safe. `metricSql_eq` says that the
first two are one and the same up to what is written around the expression,
so that a metric and a condition on the same path cannot read different
fields; the third then follows, because all of them stop at the leftmost
unsafe segment.

The name is written as an alias without being doubled. It can be: a safe
name has no quote in it, so doubling would leave it as it is.
-/
import EventAnalytics.Proofs.Query.Faults
import EventAnalytics.Proofs.Query.Lexemes

namespace EventAnalytics

open Sql

-- ========================================================= projections

/-- The projection that sums what an expression reads, under a metric's
name. -/
def sumOf (name expr : String) : String :=
  "SUM(TRY_CAST(" ++ expr ++ " AS DOUBLE)) AS " ++ identifier name

/-- A metric is the sum of what is read on its path below `payload`, and it
is refused for the segment that the path is refused for. -/
theorem metricSql_eq (name : String) :
    metricSql name
      = ((pathSql ("payload." ++ name)).mapError fun e => ⟨name, e.segment⟩).map
        (sumOf name) := by
  unfold pathSql
  rw [FieldRef.ofPath_below_payload]
  rcases Pointer.along_cases name (pathSegments name) with ⟨s, -, hp⟩ | ⟨-, p, -, hp⟩
  · rw [metricSql, hp]
    rfl
  · have hmetric : ∃ text, metricSql name = .ok text := by
      rw [metricSql, hp]
      exact ⟨_, rfl⟩
    obtain ⟨text, htext⟩ := hmetric
    obtain ⟨q, hq, rfl⟩ := metricSql_ok htext
    obtain rfl : q = p := Pointer.ext (hq.trans (Pointer.segments_of_along hp).symm)
    have hsign : " AS DOUBLE)) AS " = " AS DOUBLE))" ++ " AS " := rfl
    rw [htext, hp]
    show Except.ok _ = Except.ok (sumOf name (FieldRef.extraction .payload q))
    unfold aliased sumOf
    rw [hsign]
    simp only [String.append_assoc]

theorem metricSql_of_pathSql {name expr : String} (h : pathSql ("payload." ++ name) = .ok expr) :
    metricSql name = .ok (sumOf name expr) := by
  rw [metricSql_eq, h]
  rfl

theorem exists_metricSql_iff_exists_pathSql {name : String} :
    (∃ text, metricSql name = .ok text) ↔ ∃ expr, pathSql ("payload." ++ name) = .ok expr := by
  rw [metricSql_eq, exists_map_iff, exists_mapError_iff]

/-- An unsafe path below `payload` and an unsafe name are reported with the
same segment. -/
theorem metricSql_eq_error_iff {name : String} {e : UnsafeSegment} :
    metricSql name = .error e
      ↔ ∃ s, pathSql ("payload." ++ name) = .error ⟨"payload." ++ name, s⟩
        ∧ e = ⟨name, s⟩ := by
  rw [metricSql_eq, map_eq_error_iff, mapError_eq_error_iff]
  constructor
  · intro h
    obtain ⟨bad, hbad, rfl⟩ := h
    obtain ⟨s, -, rfl⟩ := FieldRef.pathSql_eq_error_iff.1 hbad
    exact ⟨s, hbad, rfl⟩
  · intro h
    obtain ⟨s, hs, rfl⟩ := h
    exact ⟨_, hs, rfl⟩

-- ========================================================== validation

namespace AnalyticsSettings

theorem firstUnsafe?_eq_none_iff {names : List String} :
    firstUnsafe? names = none ↔ ∀ n ∈ names, isSafeMetric n = true := by
  unfold firstUnsafe?
  simp only [List.find?_eq_none, Bool.not_eq_true', Bool.not_eq_false]

/-- The name that settings are refused for is the first that cannot be
shown. -/
theorem firstUnsafe?_eq_some_iff {names : List String} {name : String} :
    firstUnsafe? names = some name ↔ IsFirstWithout IsSafePath names name := by
  have hsafe : (fun n => isSafeMetric n = true) = IsSafePath :=
    funext fun n => propext List.all_eq_true
  rw [← hsafe]
  exact find?_not_eq_some_iff

end AnalyticsSettings

/-- Settings refuse a list of metrics just when it cannot be shown, and for
the name that it cannot be shown for. -/
theorem firstUnsafe?_eq_none_iff_exists {names : List String} :
    AnalyticsSettings.firstUnsafe? names = none ↔ ∃ ps, metricsSql names = .ok ps := by
  rw [AnalyticsSettings.firstUnsafe?_eq_none_iff, exists_metricsSql_iff]
  exact forall₂_congr fun _ _ => List.all_eq_true

theorem firstUnsafe?_eq_some_iff_exists {names : List String} {name : String} :
    AnalyticsSettings.firstUnsafe? names = some name
      ↔ ∃ s, metricsSql names = .error ⟨name, s⟩ := by
  rw [AnalyticsSettings.firstUnsafe?_eq_some_iff]
  constructor
  · intro h
    cases hname : metricSql name with
    | ok text => exact absurd ((exists_metricSql_iff name).1 ⟨text, hname⟩) h.not_self
    | error e =>
      obtain ⟨s, hs, rfl⟩ := Pointer.along_eq_error_iff.1 (map_eq_error hname)
      exact ⟨s, metricsSql_eq_error_iff.2 ⟨name, h, s, hs, rfl⟩⟩
  · intro h
    obtain ⟨s, h⟩ := h
    obtain ⟨name', h', s', -, heq⟩ := metricsSql_eq_error_iff.1 h
    cases heq
    exact h'

-- ============================================================= the law

/-- A metric has a projection just when the path of its name below `payload`
has an expression, and it is the sum of this expression under the quoted
name; otherwise both are refused for the same segment.

A list of metrics has one projection for each name, in order and with
repetitions, or is refused for the first name that has none; and settings
accept just the lists that have projections. -/
theorem metrics_read_paths_below_payload :
    (∀ name, ((∃ text, metricSql name = .ok text)
          ↔ ∃ expr, pathSql ("payload." ++ name) = .ok expr)
        ∧ (∀ expr, pathSql ("payload." ++ name) = .ok expr →
          metricSql name
            = .ok ("SUM(TRY_CAST(" ++ expr ++ " AS DOUBLE)) AS " ++ identifier name))
        ∧ ∀ e, metricSql name = .error e
          ↔ ∃ s, pathSql ("payload." ++ name) = .error ⟨"payload." ++ name, s⟩
            ∧ e = ⟨name, s⟩)
      ∧ ∀ names, ((∃ ps, metricsSql names = .ok ps)
          ↔ ∀ name ∈ names, ∃ text, metricSql name = .ok text)
        ∧ (∀ ps, metricsSql names = .ok ps ↔ names.map metricSql = ps.map .ok)
        ∧ (∀ e, metricsSql names = .error e ↔ ∃ name,
          IsFirstWithout (fun n => ∃ text, metricSql n = .ok text) names name
            ∧ metricSql name = .error e)
        ∧ (AnalyticsSettings.firstUnsafe? names = none ↔ ∃ ps, metricsSql names = .ok ps)
        ∧ ∀ name, AnalyticsSettings.firstUnsafe? names = some name
          ↔ ∃ s, metricsSql names = .error ⟨name, s⟩ := by
  constructor
  · exact fun name => ⟨exists_metricSql_iff_exists_pathSql, fun _ => metricSql_of_pathSql,
      fun _ => metricSql_eq_error_iff⟩
  · exact fun names => ⟨exists_mapM_iff, fun _ => mapM_eq_ok_iff,
      fun _ => mapM_eq_error_iff fun _ => Iff.rfl, firstUnsafe?_eq_none_iff_exists,
      fun _ => firstUnsafe?_eq_some_iff_exists⟩

/-- A metric whose name starts with a document is looked for below a key of
that name. A list with an empty name is refused for it, although there is
a quote further on. -/
theorem roots_are_no_documents_in_metrics :
    metricSql "ctx.total"
        = .ok ("SUM(TRY_CAST(json_extract_string(payload, '$.ctx.total') AS DOUBLE)) AS "
          ++ identifier "ctx.total")
      ∧ metricsSql ["hits", "hits", "", "it's"] = .error ⟨"", ""⟩
      ∧ AnalyticsSettings.firstUnsafe? ["hits", "hits", "", "it's"] = some "" := by
  obtain ⟨hmetric, hlist⟩ := metrics_read_paths_below_payload
  obtain ⟨-, htext, -⟩ := hmetric "ctx.total"
  obtain ⟨-, -, herror, -, hsettings⟩ := hlist ["hits", "hits", "", "it's"]
  have hpath : pathSql ("payload." ++ "ctx.total")
      = .ok "json_extract_string(payload, '$.ctx.total')" := by decide +kernel
  have hempty : metricSql "" = .error ⟨"", ""⟩ := by decide +kernel
  have hhits : ∃ text, metricSql "hits" = .ok text :=
    (exists_metricSql_iff "hits").2 (by decide +kernel)
  have hnone : ¬∃ text, metricSql "" = .ok text := by
    rw [hempty]
    simp
  have hrefused : metricsSql ["hits", "hits", "", "it's"] = .error ⟨"", ""⟩ := by
    refine (herror _).2 ⟨"", ⟨["hits", "hits"], ["it's"], rfl, ?_, hnone⟩, hempty⟩
    exact List.forall_mem_cons.2 ⟨hhits, List.forall_mem_singleton.2 hhits⟩
  exact ⟨htext _ hpath, hrefused, (hsettings "").2 ⟨"", hrefused⟩⟩

end EventAnalytics
