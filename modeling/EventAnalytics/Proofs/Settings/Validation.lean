/-
Which settings of the compiler are accepted, and which fault is reported of
the others.

Settings are sound when their table is an identifier, the fallback metrics
are some and safe, and so are the metrics of each row, the rows having
distinct beginnings that are not empty. `FirstFault` tells which fault is
the first: everything before it is sound.

The rows are checked one by one against the beginnings seen so far. What
the check has seen when it comes to a row are the beginnings of all rows
before it (`rowsFault?_eq_some_iff`), and no row passes that begins like one
of these, so that rows that pass have distinct beginnings
(`rowsFault?_eq_none_iff`).
-/
import EventAnalytics.Proofs.Metric.Projection
import EventAnalytics.Settings.Basic

namespace EventAnalytics

-- ======================================================== sound settings

/-- The characters that an identifier may start with. -/
def IsIdentifierStart (c : Char) : Prop :=
  ('A' ≤ c ∧ c ≤ 'Z') ∨ ('a' ≤ c ∧ c ≤ 'z') ∨ c = '_'

/-- The identifiers of ASCII characters: no digit comes first. -/
def IsIdentifier (s : String) : Prop :=
  ∃ c r, s.toList = c :: r ∧ IsIdentifierStart c
    ∧ ∀ d ∈ r, IsIdentifierStart d ∨ ('0' ≤ d ∧ d ≤ '9')

/-- Metrics that can be shown, at least one of them. -/
def AreMetrics (names : List String) : Prop :=
  names ≠ [] ∧ ∀ name ∈ names, IsSafePath name

/-- Rows of default metrics that are not at fault. -/
structure AreSoundRows (rows : List MetricRow) : Prop where
  nonempty : ∀ row ∈ rows, row.start ≠ ""
  distinct : (rows.map MetricRow.start).Nodup
  metrics : ∀ row ∈ rows, AreMetrics row.metrics

/-- The first fault of a row that comes after others. -/
inductive MetricRow.FirstFault (before : List MetricRow) (row : MetricRow) :
    AnalyticsFault → Prop where
  | emptyStart (h : row.start = "") : FirstFault before row .emptyStart
  | repeatedStart {earlier : MetricRow} (hstart : row.start ≠ "") (hearlier : earlier ∈ before)
    (h : earlier.start = row.start) : FirstFault before row (.repeatedStart row.start)
  | noMetrics (hstart : row.start ≠ "") (hnew : ∀ earlier ∈ before, earlier.start ≠ row.start)
    (h : row.metrics = []) : FirstFault before row (.noMetrics row.start)
  | unsafeMetric {name : String} (hstart : row.start ≠ "")
    (hnew : ∀ earlier ∈ before, earlier.start ≠ row.start)
    (h : IsFirstWithout IsSafePath row.metrics name) : FirstFault before row (.unsafeMetric name)

namespace AnalyticsSettings

/-- Settings that are not at fault. -/
structure IsSound (s : AnalyticsSettings) : Prop where
  table : IsIdentifier s.table
  fallback : AreMetrics s.fallback
  rows : ∀ rows, s.rows = some rows → AreSoundRows rows

/-- The fault of settings that are sound before it. -/
inductive FirstFault (s : AnalyticsSettings) : AnalyticsFault → Prop where
  | table (h : ¬IsIdentifier s.table) : FirstFault s (.badTable s.table)
  | noFallback (htable : IsIdentifier s.table) (h : s.fallback = []) : FirstFault s .noFallback
  | unsafeFallback {name : String} (htable : IsIdentifier s.table)
    (h : IsFirstWithout IsSafePath s.fallback name) : FirstFault s (.unsafeFallback name)
  | row {before later : List MetricRow} {row : MetricRow} {f : AnalyticsFault}
    (htable : IsIdentifier s.table) (hfallback : AreMetrics s.fallback)
    (hrows : s.rows = some (before ++ row :: later)) (hbefore : AreSoundRows before)
    (h : row.FirstFault before f) : FirstFault s f

end AnalyticsSettings

-- =============================================================== checks

/-- An identifier starts with an ASCII letter or an underscore. -/
theorem isIdentifierStart_iff {c : Char} : isIdentifierStart c = true ↔ IsIdentifierStart c := by
  have hcode : c = '_' ↔ c.toNat = 95 := by
    rw [← Char.toNat_inj]
    rfl
  simp only [isIdentifierStart, IsIdentifierStart, Text.isLetter, Char.le_def,
    UInt32.le_iff_toNat_le, Bool.or_eq_true, Bool.and_eq_true, decide_eq_true_eq, beq_iff_eq, hcode]
  exact or_assoc

/-- It goes on with those and with ASCII digits. -/
theorem isIdentifierChar_iff {c : Char} :
    isIdentifierChar c = true ↔ IsIdentifierStart c ∨ ('0' ≤ c ∧ c ≤ '9') := by
  rw [← isIdentifierStart_iff]
  simp only [isIdentifierChar, Text.isDigit, Char.le_def, UInt32.le_iff_toNat_le, Bool.or_eq_true,
    Bool.and_eq_true, decide_eq_true_eq]
  rfl

/-- The check of a table finds out whether it is an identifier. -/
theorem isPlainIdentifier_iff {s : String} : isPlainIdentifier s = true ↔ IsIdentifier s := by
  unfold isPlainIdentifier IsIdentifier
  cases s.toList with
  | nil => simp
  | cons c r =>
    simp only [Bool.and_eq_true, isIdentifierStart_iff, List.all_eq_true, isIdentifierChar_iff,
      List.cons.injEq, exists_and_left, exists_eq_left', and_assoc]

instance (s : String) : Decidable (IsIdentifier s) := decidable_of_iff _ isPlainIdentifier_iff

theorem isSafeMetric_iff {name : String} : isSafeMetric name = true ↔ IsSafePath name :=
  List.all_eq_true

namespace AnalyticsSettings

-- ================================================================ lists

/-- Metrics can be taken when there are some and none of them is unsafe. -/
theorem areMetrics_iff {names : List String} :
    AreMetrics names ↔ names ≠ [] ∧ firstUnsafe? names = none := by
  unfold AreMetrics
  simp only [firstUnsafe?_eq_none_iff, isSafeMetric_iff]

/-- The fallback has no fault when its metrics can be taken. -/
theorem fallbackFault?_eq_none_iff {names : List String} :
    fallbackFault? names = none ↔ AreMetrics names := by
  unfold fallbackFault?
  rw [areMetrics_iff]
  by_cases h : names = [] <;> simp [h]

/-- The fallback is empty, or has a first name that is not safe. -/
theorem fallbackFault?_eq_some_iff {names : List String} {f : AnalyticsFault} :
    fallbackFault? names = some f
      ↔ (names = [] ∧ f = .noFallback)
        ∨ ∃ name, IsFirstWithout IsSafePath names name ∧ f = .unsafeFallback name := by
  unfold fallbackFault?
  constructor
  · intro h
    split at h
    · next hnil => exact .inl ⟨hnil, (Option.some.inj h).symm⟩
    · obtain ⟨name, hname, rfl⟩ := Option.map_eq_some_iff.1 h
      exact .inr ⟨name, firstUnsafe?_eq_some_iff.1 hname, rfl⟩
  · intro h
    rcases h with ⟨hnil, rfl⟩ | ⟨name, hname, rfl⟩
    · rw [if_pos hnil]
    · rw [if_neg hname.ne_nil, firstUnsafe?_eq_some_iff.2 hname]
      rfl

-- ================================================================= rows

/-- A row has no fault when it has a start of its own and its metrics can be
taken. -/
theorem rowFault?_eq_none_iff {seen : List String} {row : MetricRow} :
    rowFault? seen row = none ↔ row.start ≠ "" ∧ row.start ∉ seen ∧ AreMetrics row.metrics := by
  unfold rowFault?
  rw [areMetrics_iff]
  by_cases hstart : row.start = ""
  · simp [hstart]
  · by_cases hseen : row.start ∈ seen
    · simp [hstart, hseen]
    · by_cases hmetrics : row.metrics = [] <;> simp [hstart, hseen, hmetrics]

/-- A row is refused for its first fault, when what was seen before it are
the beginnings of the rows before it. -/
theorem rowFault?_eq_some_iff {seen : List String} {before : List MetricRow}
    (hseen : ∀ start, start ∈ seen ↔ ∃ earlier ∈ before, earlier.start = start)
    {row : MetricRow} {f : AnalyticsFault} :
    rowFault? seen row = some f ↔ row.FirstFault before f := by
  unfold rowFault?
  constructor
  -- one case for each check, in the order in which they are made
  · intro h
    split at h
    · next hempty =>
      cases h
      exact .emptyStart hempty
    split at h
    · next hstart hrepeated =>
      cases h
      obtain ⟨earlier, hearlier, hsame⟩ := (hseen _).1 hrepeated
      exact .repeatedStart hstart hearlier hsame
    next hstart hrepeated =>
    have hnew : ∀ earlier ∈ before, earlier.start ≠ row.start :=
      fun earlier hearlier hsame => hrepeated ((hseen _).2 ⟨earlier, hearlier, hsame⟩)
    split at h
    · next hnone =>
      cases h
      exact .noMetrics hstart hnew hnone
    · obtain ⟨name, hname, rfl⟩ := Option.map_eq_some_iff.1 h
      exact .unsafeMetric hstart hnew (firstUnsafe?_eq_some_iff.1 hname)
  · intro h
    have hfresh : (∀ earlier ∈ before, earlier.start ≠ row.start) → row.start ∉ seen := by
      intro hnew hmem
      obtain ⟨earlier, hearlier, hsame⟩ := (hseen _).1 hmem
      exact hnew earlier hearlier hsame
    cases h with
    | emptyStart hempty => rw [if_pos hempty]
    | repeatedStart hstart hearlier hsame =>
      rw [if_neg hstart, if_pos ((hseen _).2 ⟨_, hearlier, hsame⟩)]
    | noMetrics hstart hnew hnone => rw [if_neg hstart, if_neg (hfresh hnew), if_pos hnone]
    | unsafeMetric hstart hnew hname =>
      rw [if_neg hstart, if_neg (hfresh hnew), if_neg hname.ne_nil,
        firstUnsafe?_eq_some_iff.2 hname]
      rfl

/-- Rows pass when each is sound in itself, they begin differently, and none
begins like one seen before. -/
theorem rowsFault?_eq_none_iff {seen : List String} {rows : List MetricRow} :
    rowsFault? seen rows = none ↔ AreSoundRows rows ∧ ∀ row ∈ rows, row.start ∉ seen := by
  induction rows generalizing seen with
  | nil =>
    exact iff_of_true rfl
      ⟨⟨List.forall_mem_nil _, List.nodup_nil, List.forall_mem_nil _⟩, List.forall_mem_nil _⟩
  | cons row rows ih =>
    -- the checks of the rows after the first have seen one start more
    have hsplit : rowsFault? seen (row :: rows) = none
        ↔ rowFault? seen row = none ∧ rowsFault? (row.start :: seen) rows = none := by
      rw [rowsFault?]
      cases rowFault? seen row <;> simp
    rw [hsplit, rowFault?_eq_none_iff, ih]
    constructor
    · intro h
      obtain ⟨⟨hstart, hnew, hmetrics⟩, hrows, hapart⟩ := h
      refine ⟨⟨List.forall_mem_cons.2 ⟨hstart, hrows.nonempty⟩, ?_,
        List.forall_mem_cons.2 ⟨hmetrics, hrows.metrics⟩⟩, List.forall_mem_cons.2 ⟨hnew, ?_⟩⟩
      · rw [List.map_cons, List.nodup_cons]
        refine ⟨fun hmem => ?_, hrows.distinct⟩
        obtain ⟨other, hother, hsame⟩ := List.mem_map.1 hmem
        exact hapart other hother (hsame ▸ List.mem_cons_self)
      · exact fun other hother hmem => hapart other hother (List.mem_cons_of_mem _ hmem)
    · intro h
      obtain ⟨hrows, hapart⟩ := h
      obtain ⟨hstart, hnonempty⟩ := List.forall_mem_cons.1 hrows.nonempty
      obtain ⟨hmetrics, hrest⟩ := List.forall_mem_cons.1 hrows.metrics
      obtain ⟨hnew, hlater⟩ := List.forall_mem_cons.1 hapart
      obtain ⟨hfirst, hdistinct⟩ := List.nodup_cons.1 hrows.distinct
      refine ⟨⟨hstart, hnew, hmetrics⟩, ⟨hnonempty, hdistinct, hrest⟩, fun other hother => ?_⟩
      rw [List.mem_cons, not_or]
      exact ⟨fun hsame => hfirst (hsame ▸ List.mem_map_of_mem hother), hlater other hother⟩

/-- Rows are refused for the first that does not pass, which is checked
against all rows before it. -/
theorem rowsFault?_eq_some_iff {seen : List String} {rows : List MetricRow} {f : AnalyticsFault} :
    rowsFault? seen rows = some f
      ↔ ∃ before row later, rows = before ++ row :: later ∧ rowsFault? seen before = none
        ∧ rowFault? ((before.map MetricRow.start).reverse ++ seen) row = some f := by
  induction rows generalizing seen with
  | nil => simp [rowsFault?]
  | cons row rows ih =>
    rw [rowsFault?]
    cases hrow : rowFault? seen row with
    -- the first row is refused, and whatever the split is, it cannot stand
    -- before the refused row
    | some g =>
      constructor
      · intro h
        cases h
        exact ⟨[], row, rows, rfl, rfl, hrow⟩
      · intro h
        obtain ⟨before, row', later, hrows, hbefore, hfault⟩ := h
        cases before with
        | nil =>
          obtain ⟨rfl, rfl⟩ := List.cons.inj hrows
          exact hrow.symm.trans hfault
        | cons first before =>
          obtain ⟨rfl, -⟩ := List.cons.inj hrows
          rw [rowsFault?, hrow] at hbefore
          cases hbefore
    | none =>
      -- the first row passes, so that the induction hypothesis finds the
      -- refused one behind it
      simp only [ih]
      constructor
      · intro h
        obtain ⟨before, row', later, rfl, hbefore, hfault⟩ := h
        refine ⟨row :: before, row', later, rfl, ?_, ?_⟩
        · rw [rowsFault?, hrow]
          exact hbefore
        · simpa using hfault
      · intro h
        obtain ⟨before, row', later, hrows, hbefore, hfault⟩ := h
        cases before with
        | nil =>
          obtain ⟨rfl, rfl⟩ := List.cons.inj hrows
          cases hrow.symm.trans hfault
        | cons first before =>
          obtain ⟨rfl, rfl⟩ := List.cons.inj hrows
          rw [rowsFault?, hrow] at hbefore
          exact ⟨before, row', later, rfl, hbefore, by simpa using hfault⟩

-- ============================================================= settings

/-- Settings without a fault are sound. -/
theorem fault?_eq_none_iff {s : AnalyticsSettings} : s.fault? = none ↔ s.IsSound := by
  have hparts : s.fault? = none ↔ isPlainIdentifier s.table = true ∧ fallbackFault? s.fallback = none
      ∧ ∀ rows, s.rows = some rows → rowsFault? [] rows = none := by
    unfold fault?
    cases isPlainIdentifier s.table <;> cases fallbackFault? s.fallback <;> cases s.rows <;> simp
  rw [hparts, isPlainIdentifier_iff, fallbackFault?_eq_none_iff]
  simp only [rowsFault?_eq_none_iff, List.not_mem_nil, not_false_eq_true, implies_true, and_true]
  exact ⟨fun ⟨htable, hfallback, hrows⟩ => ⟨htable, hfallback, hrows⟩,
    fun h => ⟨h.table, h.fallback, h.rows⟩⟩

/-- Otherwise they have the first fault there is, in the order of the
checks. -/
theorem fault?_eq_some_iff {s : AnalyticsSettings} {f : AnalyticsFault} :
    s.fault? = some f ↔ s.FirstFault f := by
  have hseen : ∀ (before : List MetricRow) start,
      start ∈ (before.map MetricRow.start).reverse ++ []
        ↔ ∃ earlier ∈ before, earlier.start = start := by
    intro before start
    rw [List.append_nil, List.mem_reverse, List.mem_map]
  have hsound : ∀ before, rowsFault? [] before = none ↔ AreSoundRows before := by
    intro before
    rw [rowsFault?_eq_none_iff]
    exact and_iff_left fun _ _ => List.not_mem_nil
  unfold fault?
  constructor
  -- the checks one after the other: each gives its own fault, and leaves to
  -- the next what it has found out
  · intro h
    split at h
    · next htable =>
      cases h
      refine .table fun hidentifier => ?_
      simp [isPlainIdentifier_iff.2 hidentifier] at htable
    next htable =>
    have htable : IsIdentifier s.table := isPlainIdentifier_iff.1 (by simpa using htable)
    split at h
    · next hfault =>
      cases h
      rcases fallbackFault?_eq_some_iff.1 hfault with ⟨hnil, rfl⟩ | ⟨name, hname, rfl⟩
      · exact .noFallback htable hnil
      · exact .unsafeFallback htable hname
    next hfallback =>
    split at h
    · next rows hrows =>
      obtain ⟨before, row, later, rfl, hbefore, hrow⟩ := rowsFault?_eq_some_iff.1 h
      exact .row htable (fallbackFault?_eq_none_iff.1 hfallback) hrows ((hsound before).1 hbefore)
        ((rowFault?_eq_some_iff (hseen before)).1 hrow)
    · cases h
  · intro h
    have htable : IsIdentifier s.table → (!isPlainIdentifier s.table) = false := by
      intro hidentifier
      rw [isPlainIdentifier_iff.2 hidentifier]
      rfl
    cases h with
    | table hbad =>
      rw [if_pos]
      simpa using fun hplain => hbad (isPlainIdentifier_iff.1 hplain)
    | noFallback hidentifier hnil =>
      rw [htable hidentifier, fallbackFault?_eq_some_iff.2 (.inl ⟨hnil, rfl⟩)]
      rfl
    | unsafeFallback hidentifier hname =>
      rw [htable hidentifier, fallbackFault?_eq_some_iff.2 (.inr ⟨_, hname, rfl⟩)]
      rfl
    | @row before later row f hidentifier hfallback hrows hbefore hfault =>
      have hrow := (rowFault?_eq_some_iff (hseen before)).2 hfault
      rw [htable hidentifier, fallbackFault?_eq_none_iff.2 hfallback, hrows]
      exact rowsFault?_eq_some_iff.2 ⟨before, row, later, rfl, (hsound before).2 hbefore, hrow⟩

-- ========================================================== default rows

/-- The rows of a document are decoded in order, if it has any. -/
theorem rows_of_decode? {v : Toml} {s : AnalyticsSettings} (h : decode? v = some s) :
    ∃ table fallback rows,
      v.record? ["table", "fallback_metrics", "metric_defaults"] = some [table, fallback, rows]
        ∧ ((rows = none ∧ s.rows = none)
          ∨ ∃ items custom, rows = some (.array items) ∧ s.rows = some custom
            ∧ items.map decodeRow? = custom.map some) := by
  unfold decode? at h
  split at h
  · next table fallback rows hrecord =>
    refine ⟨table, fallback, rows, hrecord, ?_⟩
    simp only [Option.bind_eq_bind, Option.pure_def, Option.bind_eq_some_iff] at h
    obtain ⟨_, -, _, -, custom, hcustom, hs⟩ := h
    cases hs
    cases rows with
    | none =>
      cases hcustom
      exact .inl ⟨rfl, rfl⟩
    | some v =>
      obtain ⟨decoded, hdecoded, rfl⟩ := Option.map_eq_some_iff.1 hcustom
      cases v with
      | array items => exact .inr ⟨items, decoded, rfl, rfl, map_of_mapM_eq_some hdecoded⟩
      | _ => cases hdecoded
  · cases h

/-- The table of default metrics has the custom rows, or the built-in ones
when there are none. -/
theorem rows_metricDefaults_eq_builtin_iff {s : AnalyticsSettings} :
    s.metricDefaults.rows = MetricDefaults.builtinRows
      ↔ s.rows = none ∨ s.rows = some MetricDefaults.builtinRows := by
  unfold metricDefaults
  cases s.rows <;> simp

end AnalyticsSettings

-- ============================================================= the law

/-- Settings are accepted just when they are sound, and refused for their
first fault: the table, the fallback, then the rows one by one, each for its
beginning before its metrics.

Default metrics come from the custom rows, or from the built-in ones when
there are no custom rows; and the custom rows are those of the document, in
order. -/
theorem settings_are_refused_for_first_fault (s : AnalyticsSettings) :
    (s.fault? = none ↔ s.IsSound)
      ∧ (∀ f, s.fault? = some f ↔ s.FirstFault f)
      ∧ s.metricDefaults.fallback = s.fallback
      ∧ (∀ rows, s.rows = some rows → s.metricDefaults.rows = rows)
      ∧ (s.metricDefaults.rows = MetricDefaults.builtinRows
        ↔ s.rows = none ∨ s.rows = some MetricDefaults.builtinRows)
      ∧ ∀ v, AnalyticsSettings.decode? v = some s → ∃ table fallback rows,
        v.record? ["table", "fallback_metrics", "metric_defaults"] = some [table, fallback, rows]
          ∧ (rows = none ↔ s.rows = none)
          ∧ ∀ custom, rows = some custom → ∃ items, custom = .array items
            ∧ items.map AnalyticsSettings.decodeRow? = s.metricDefaults.rows.map some := by
  refine ⟨AnalyticsSettings.fault?_eq_none_iff, fun _ => AnalyticsSettings.fault?_eq_some_iff, rfl,
    ?_, AnalyticsSettings.rows_metricDefaults_eq_builtin_iff, ?_⟩
  · intro rows hrows
    unfold AnalyticsSettings.metricDefaults
    rw [hrows]
    rfl
  · intro v hv
    obtain ⟨table, fallback, rows, hrecord, ⟨hnone, hrows⟩ | ⟨items, custom, hitems, hrows, hdecoded⟩⟩ :=
      AnalyticsSettings.rows_of_decode? hv
    · exact ⟨table, fallback, rows, hrecord, iff_of_true hnone hrows, by simp [hnone]⟩
    · refine ⟨table, fallback, rows, hrecord, by simp [hitems, hrows], ?_⟩
      intro v' hv'
      cases hitems.symm.trans hv'
      refine ⟨items, rfl, hdecoded.trans ?_⟩
      unfold AnalyticsSettings.metricDefaults
      rw [hrows]
      rfl

/-- A document whose last row but one repeats the beginning of the row before
it and lists no metric, and whose last row has no beginning and an unsafe
metric. -/
def faultyRows : Toml :=
  let row (start : String) (metrics : List String) : Toml :=
    .table [("prefix", .text start), ("metrics", .array (metrics.map .text))]
  .table [("table", .text "kb_1"),
    ("metric_defaults", .array
      [row "job." ["rows"], row "llm." ["usage.total"], row "llm." [], row "" ["it's"]])]

/-- The repeated beginning is reported. -/
theorem repeated_start_comes_before_missing_metrics :
    ∃ s, AnalyticsSettings.decode? faultyRows = some s
      ∧ s.fault? = some (.repeatedStart "llm.")
      ∧ s.metricDefaults.rows = [⟨"job.", ["rows"]⟩, ⟨"llm.", ["usage.total"]⟩, ⟨"llm.", []⟩,
        ⟨"", ["it's"]⟩] := by
  let rows : List MetricRow :=
    [⟨"job.", ["rows"]⟩, ⟨"llm.", ["usage.total"]⟩, ⟨"llm.", []⟩, ⟨"", ["it's"]⟩]
  let s : AnalyticsSettings := { table := "kb_1", rows := some rows }
  have hdecoded : AnalyticsSettings.decode? faultyRows = some s := by rfl
  obtain ⟨-, hfault, -, hrows, -⟩ := settings_are_refused_for_first_fault s
  refine ⟨s, hdecoded, (hfault _).2 ?_, hrows rows rfl⟩
  have htable : IsIdentifier "kb_1" := by decide
  have hfallback : AreMetrics MetricDefaults.builtinFallback := ⟨by decide, by decide +kernel⟩
  have hbefore : AreSoundRows [⟨"job.", ["rows"]⟩, ⟨"llm.", ["usage.total"]⟩] :=
    ⟨by decide, by decide, by unfold AreMetrics; decide +kernel⟩
  have hcut : s.rows = some ([⟨"job.", ["rows"]⟩, ⟨"llm.", ["usage.total"]⟩]
      ++ ⟨"llm.", []⟩ :: [⟨"", ["it's"]⟩]) := rfl
  exact .row htable hfallback hcut hbefore
    (.repeatedStart (by decide) (List.mem_cons_of_mem _ List.mem_cons_self) rfl)

end EventAnalytics
