/-
A compiled query by its parts.

The compiler threads one statement through its steps, and each step both
renders a part of the query and adds it to the clauses that the part
belongs to. Here the two are taken apart: `Compiler.parts` renders all
parts in the order in which they are checked, and `Compiler.assembled` is
the statement that given parts make. `statement_eq` says that compiling is
the one and then the other, errors included, so what is proved of a
statement's clauses is read off a record and what is proved of errors off
a chain of renderings.
-/
import EventAnalytics.Proofs.Outcome
import EventAnalytics.Query.Compile

namespace EventAnalytics

open Time (Instant)

/-- What a condition renders to, given where its path leads. -/
theorem Condition.sql_of_path {c : Condition} {expr : String} (h : pathSql c.field = .ok expr) :
    c.sql = match compareSql? expr c.operator c.value with
      | some clause => .ok clause
      | none => .error (.operandMismatch c) := by
  cases hclause : compareSql? expr c.operator c.value <;> simp only [Condition.sql, h, hclause]

namespace Compiler

-- ============================================================== parts

/-- The parts of a query as they go into its statement. -/
structure Parts where
  bucket : Option Granularity
  /-- The expressions of the dimensions. -/
  dimensions : List String
  /-- The projections of the metrics. -/
  metrics : List String
  /-- The clause of the event types, if there is one. -/
  types : List String
  range : Option TimeRange
  /-- The clauses of the conditions. -/
  filters : List String

/-- The granularity that a key names. -/
def bucketOf (key : String) : Except QueryError Granularity :=
  match Granularity.ofKey? key with
  | some g => .ok g
  | none => .error (.unknownGranularity key)

def dimensionSql (path : String) : Except QueryError String :=
  (pathSql path).mapError .unsafePath

def projectionsSql (names : List String) : Except QueryError (List String) :=
  (metricsSql names).mapError .unsafePath

/-- The range that an expression names. -/
def rangeOf (now : Instant) (text : String) : Except QueryError TimeRange :=
  (TimeRange.ofText text now).mapError .badRange

def conditionSql (c : Condition) : Except QueryError String :=
  c.sql.mapError .ofCondition

/-- What an optional part of a query is rendered to. -/
def optional {α β : Type} (f : α → Except QueryError β) :
    Option α → Except QueryError (Option β)
  | none => .ok none
  | some a => (f a).map some

/-- All parts of a query, in the order in which they are checked. -/
def parts (c : Compiler) (q : Query) (now : Instant) : Except QueryError Parts := do
  let bucket ← optional bucketOf q.groupBy
  let dimensions ← q.breakdownBy.mapM dimensionSql
  let metrics ← projectionsSql (q.resolvedMetrics c.defaults)
  let types ← (typeCondition? q.types).toList.mapM conditionSql
  let range ← optional (rangeOf now) q.timeRange
  let filters ← q.filters.mapM conditionSql
  return { bucket, dimensions, metrics, types, range, filters }

/-- The sort keys of a statement: its bucket, or the number of events when
there are only dimensions. -/
def sortKeys (bucket : Option Granularity) (paths : List String) : List Sql.SortKey :=
  match bucket, paths with
  | some _, _ => [⟨bucketName, .ascending⟩]
  | none, _ :: _ => [⟨Sql.identifier countName, .descending⟩]
  | none, [] => []

def bucketProjection (g : Granularity) : String :=
  Sql.aliased (g.labelSql Column.ts.name) bucketName

def dimensionProjection (expr path : String) : String :=
  Sql.aliased expr (Sql.identifier path)

/-- The projection of the number of events. -/
def countProjection : String :=
  Sql.aliased "COUNT(*)" (Sql.identifier countName)

/-- The statement that the parts of a query make. -/
def assembled (c : Compiler) (q : Query) (p : Parts) : Sql.Select where
  table := c.table
  projections :=
    p.bucket.toList.map bucketProjection
      ++ List.zipWith dimensionProjection p.dimensions q.breakdownBy
      ++ countProjection :: p.metrics
  predicates := p.types ++ (p.range.toList.map fun r => r.sql Column.ts.name) ++ p.filters
  grouping := (p.bucket.toList.map fun _ => bucketName) ++ p.dimensions
  ordering := sortKeys p.bucket q.breakdownBy
  limit := q.limit.map fun n => min n Query.maxLimit

-- ===================================================== optional parts

/-- An optional part is missing, or it is rendered or refused. -/
theorem optional_cases {α β : Type} (f : α → Except QueryError β) (o : Option α) :
    (o = none ∧ optional f o = .ok none)
      ∨ (∃ a b, o = some a ∧ f a = .ok b ∧ optional f o = .ok (some b))
      ∨ ∃ a e, o = some a ∧ f a = .error e ∧ optional f o = .error e := by
  cases o with
  | none => exact .inl ⟨rfl, rfl⟩
  | some a =>
    cases hf : f a with
    | ok b => exact .inr (.inl ⟨a, b, rfl, hf, by simp only [optional, hf]; rfl⟩)
    | error e => exact .inr (.inr ⟨a, e, rfl, hf, by simp only [optional, hf]; rfl⟩)

/-- A part that may be missing, where it is taken with success. -/
theorem optional_eq_ok {α β : Type} {f : α → Except QueryError β} {o : Option α} {r : Option β}
    (h : optional f o = .ok r) : r = o.bind fun a => (f a).toOption := by
  rcases optional_cases f o with ⟨rfl, ho⟩ | ⟨a, b, rfl, hf, ho⟩ | ⟨a, e, rfl, hf, ho⟩
  · cases h
    rfl
  · rw [ho] at h
    cases h
    rw [Option.bind_some, hf]
    rfl
  · rw [ho] at h
    cases h

/-- A part is there when it was asked for. -/
theorem optional_isSome {α β : Type} {f : α → Except QueryError β} {o : Option α} {r : Option β}
    (h : optional f o = .ok r) : r.isSome = o.isSome := by
  rcases optional_cases f o with ⟨rfl, ho⟩ | ⟨a, b, rfl, -, ho⟩ | ⟨a, e, rfl, -, ho⟩
  · cases h
    rfl
  · rw [ho] at h
    cases h
    rfl
  · rw [ho] at h
    cases h

/-- The same with lists of one item or none. -/
theorem optional_map_some {α β : Type} {f : α → Except QueryError β} {o : Option α}
    {r : Option β} (h : optional f o = .ok r) :
    r.toList.map some = o.toList.map fun a => (f a).toOption := by
  have hsome := optional_isSome h
  rw [optional_eq_ok h] at hsome ⊢
  cases o with
  | none => rfl
  | some a =>
    rw [Option.bind_some] at hsome ⊢
    obtain ⟨b, hb⟩ := Option.isSome_iff_exists.1 hsome
    simp [hb]

/-- A part that cannot be taken was asked for. -/
theorem optional_eq_error {α β : Type} {f : α → Except QueryError β} {o : Option α}
    {e : QueryError} (h : optional f o = .error e) : ∃ a, o = some a ∧ f a = .error e := by
  rcases optional_cases f o with ⟨rfl, ho⟩ | ⟨a, b, rfl, -, ho⟩ | ⟨a, e', rfl, hf, ho⟩
  · cases h
  · rw [ho] at h
    cases h
  · rw [ho] at h
    cases h
    exact ⟨a, rfl, hf⟩

/-- A part that may be missing is taken when it can be, if it is asked
for. -/
theorem exists_optional_iff {α β : Type} {f : α → Except QueryError β} {o : Option α} :
    (∃ r, optional f o = .ok r) ↔ ∀ a, o = some a → ∃ b, f a = .ok b := by
  rcases optional_cases f o with ⟨rfl, ho⟩ | ⟨a, b, rfl, hb, ho⟩ | ⟨a, e, rfl, he, ho⟩
  · exact iff_of_true ⟨none, ho⟩ nofun
  · exact iff_of_true ⟨some b, ho⟩ fun a' ha => ⟨b, Option.some.inj ha ▸ hb⟩
  · refine iff_of_false ?_ fun h => ?_
    · intro h
      obtain ⟨r, hr⟩ := h
      cases ho.symm.trans hr
    · obtain ⟨b, hb⟩ := h a rfl
      cases he.symm.trans hb

/-- It fails only with the fault of what was asked for. -/
theorem optional_eq_error_iff {α β : Type} {f : α → Except QueryError β} {o : Option α}
    {e : QueryError} : optional f o = .error e ↔ ∃ a, o = some a ∧ f a = .error e := by
  refine ⟨optional_eq_error, ?_⟩
  intro h
  obtain ⟨a, rfl, h⟩ := h
  simp only [optional, h, Except.map]

theorem bucketOf_toOption (key : String) : (bucketOf key).toOption = Granularity.ofKey? key := by
  unfold bucketOf
  cases h : Granularity.ofKey? key <;> rfl

theorem rangeOf_toOption (now : Instant) (text : String) :
    (rangeOf now text).toOption = (TimeRange.ofText text now).toOption := by
  unfold rangeOf
  cases TimeRange.ofText text now <;> rfl

-- ==================================================== steps by parts

/-- A statement with dimensions added at the end. -/
def putDimensions (s : Sql.Select) (paths exprs : List String) : Sql.Select :=
  { s with
    projections := s.projections ++ List.zipWith dimensionProjection exprs paths
    grouping := s.grouping ++ exprs }

/-- A statement with predicates added at the end. -/
def putPredicates (s : Sql.Select) (clauses : List String) : Sql.Select :=
  { s with predicates := s.predicates ++ clauses }

/-- A statement with the bucket in front, if there is one. -/
def putBucket (s : Sql.Select) : Option Granularity → Sql.Select
  | none => s
  | some g => s.bucketed g Column.ts.name bucketName

/-- A statement with metrics added at the end. -/
def putMetrics (s : Sql.Select) (exprs : List String) : Sql.Select :=
  { s with projections := s.projections ++ exprs }

/-- A time bucket is put in front once its key is known. -/
theorem addBucket_eq (s : Sql.Select) (key : Option String) :
    addBucket s key = putBucket s <$> optional bucketOf key := by
  cases key with
  | none => rfl
  | some key =>
    simp only [addBucket, optional, bucketOf]
    cases Granularity.ofKey? key <;> rfl

theorem addDimension_eq (s : Sql.Select) (path : String) :
    addDimension s path = (fun e => putDimensions s [path] [e]) <$> dimensionSql path := by
  unfold addDimension dimensionSql
  cases pathSql path <;> rfl

/-- Dimensions are added in order, once all their paths are safe. -/
theorem addDimensions_eq (s : Sql.Select) (paths : List String) :
    paths.foldlM addDimension s = putDimensions s paths <$> paths.mapM dimensionSql := by
  apply foldlM_eq_map_mapM putDimensions
  · intro s
    simp [putDimensions]
  · intro s a as b bs
    simp [putDimensions]
  · exact addDimension_eq

theorem foldl_project (s : Sql.Select) (exprs : List String) :
    exprs.foldl Sql.Select.project s = putMetrics s exprs := by
  induction exprs generalizing s with
  | nil => simp [putMetrics]
  | cons e es ih =>
    rw [List.foldl_cons, ih]
    simp [Sql.Select.project, putMetrics]

/-- Metrics are added in order, once all their names are safe. -/
theorem addMetrics_eq (s : Sql.Select) (names : List String) :
    addMetrics s names = putMetrics s <$> projectionsSql names := by
  unfold addMetrics projectionsSql
  cases metricsSql names with
  | error e => rfl
  | ok exprs => exact congrArg Except.ok (foldl_project s exprs)

theorem addCondition_eq (s : Sql.Select) (c : Condition) :
    addCondition s c = (fun e => putPredicates s [e]) <$> conditionSql c := by
  unfold addCondition conditionSql
  cases c.sql <;> rfl

/-- Conditions are added in order, once all have a clause. -/
theorem addConditions_eq (s : Sql.Select) (cs : List Condition) :
    cs.foldlM addCondition s = putPredicates s <$> cs.mapM conditionSql := by
  apply foldlM_eq_map_mapM fun s _ => putPredicates s
  · intro s
    simp [putPredicates]
  · intro s a as b bs
    simp [putPredicates]
  · exact addCondition_eq

/-- A range is added as one predicate, once it is read. -/
theorem addRange_eq (s : Sql.Select) (now : Instant) (text : Option String) :
    addRange s now text = (fun r : Option TimeRange =>
      putPredicates s (r.toList.map fun r => r.sql Column.ts.name))
        <$> optional (rangeOf now) text := by
  cases text with
  | none => exact congrArg Except.ok (by simp [putPredicates])
  | some text =>
    simp only [addRange, optional, rangeOf]
    cases TimeRange.ofText text now <;> rfl

/-- Adding the parts one after the other gives the assembled statement. -/
theorem put_eq_assembled (c : Compiler) (q : Query) (p : Parts) :
    let s := putDimensions (putBucket (.ofTable c.table) p.bucket) q.breakdownBy p.dimensions
    let s := putMetrics (s.projectAs "COUNT(*)" (Sql.identifier countName)) p.metrics
    let s := putPredicates s p.types
    let s := putPredicates s (p.range.toList.map fun r => r.sql Column.ts.name)
    addLimit (addOrder (putPredicates s p.filters) q) q.limit = c.assembled q p := by
  obtain ⟨bucket, dimensions, metrics, types, range, filters⟩ := p
  obtain ⟨qtypes, timeRange, conditions, groupBy, paths, names, limit⟩ := q
  have hlimit : ∀ s : Sql.Select, s.limit = none →
      addLimit s limit = { s with limit := limit.map fun n => min n Query.maxLimit } := by
    rintro ⟨⟩ rfl
    cases limit <;> rfl
  have horder : ∀ s : Sql.Select, s.ordering = sortKeys bucket [] →
      addOrder s ⟨qtypes, timeRange, conditions, groupBy, paths, names, limit⟩
        = { s with ordering := sortKeys bucket paths } := by
    rintro ⟨⟩ rfl
    cases bucket <;> cases paths <;> rfl
  simp only
  rw [horder, hlimit]
  · cases bucket <;> simp [assembled, putPredicates, putMetrics, putDimensions, putBucket,
      countProjection, Sql.Select.projectAs, Sql.Select.project, Sql.Select.ofTable,
      Sql.Select.bucketed, bucketProjection]
  · cases bucket <;> rfl
  · cases bucket <;> rfl

/-- Compiling renders the parts and assembles them; the first part that
cannot be rendered is the error. -/
theorem statement_eq (c : Compiler) (q : Query) (now : Instant) :
    c.statement q now = c.assembled q <$> c.parts q now := by
  simp only [statement, parts, addBucket_eq, addDimensions_eq, addMetrics_eq,
    addConditions_eq, addRange_eq, bind_map_left, map_bind, map_pure]
  simp only [← put_eq_assembled]

-- ======================================================== event types

/-- The clause of the event types. A filter that names none has none. -/
def typeSql? : Option TypeFilter → Option String
  | none | some (.anyOf []) => none
  | some (.one t) => some ("type = " ++ Sql.literal t)
  | some (.anyOf ts) => some ("type IN " ++ Condition.literalList ts)

/-- Event types are rendered always. -/
theorem mapM_typeCondition (t : Option TypeFilter) :
    (typeCondition? t).toList.mapM conditionSql = .ok (typeSql? t).toList := by
  have hpath : pathSql "type" = .ok "type" := rfl
  match t with
  | none => rfl
  | some (.anyOf []) => rfl
  | some (.one t) =>
    have hclause : conditionSql (.eq "type" t) = .ok ("type = " ++ Sql.literal t) := by
      simp only [conditionSql, Condition.sql, Condition.eq, hpath]
      rfl
    exact mapM_eq_ok_iff.2 (congrArg (fun r => [r]) hclause)
  | some (.anyOf (t :: ts)) =>
    have hclause : conditionSql (.isIn "type" (t :: ts))
        = .ok ("type IN " ++ Condition.literalList (t :: ts)) := by
      simp only [conditionSql, Condition.sql, Condition.isIn, hpath]
      rfl
    exact mapM_eq_ok_iff.2 (congrArg (fun r => [r]) hclause)

-- ======================================================= all rendered

/-- When all parts are rendered, each is. -/
structure Parts.Rendered (c : Compiler) (q : Query) (now : Instant) (p : Parts) : Prop where
  bucket : optional bucketOf q.groupBy = .ok p.bucket
  dimensions : q.breakdownBy.mapM dimensionSql = .ok p.dimensions
  metrics : (q.resolvedMetrics c.defaults).mapM metricSql = .ok p.metrics
  types : (typeCondition? q.types).toList.mapM conditionSql = .ok p.types
  range : optional (rangeOf now) q.timeRange = .ok p.range
  filters : q.filters.mapM conditionSql = .ok p.filters

/-- The parts that were taken are rendered from the query, each by itself. -/
theorem parts_rendered {c : Compiler} {q : Query} {now : Instant} {p : Parts}
    (h : c.parts q now = .ok p) : p.Rendered c q now := by
  unfold parts at h
  obtain ⟨bucket, hbucket, h⟩ := bind_eq_ok h
  obtain ⟨dimensions, hdimensions, h⟩ := bind_eq_ok h
  obtain ⟨metrics, hmetrics, h⟩ := bind_eq_ok h
  obtain ⟨types, htypes, h⟩ := bind_eq_ok h
  obtain ⟨range, hrange, h⟩ := bind_eq_ok h
  obtain ⟨filters, hfilters, h⟩ := bind_eq_ok h
  cases h
  exact ⟨hbucket, hdimensions, mapError_eq_ok hmetrics, htypes, hrange, hfilters⟩

/-- A statement is what the rendered parts of its query make. -/
theorem statement_eq_ok {c : Compiler} {q : Query} {now : Instant} {s : Sql.Select}
    (h : c.statement q now = .ok s) :
    ∃ p : Parts, p.Rendered c q now ∧ s = c.assembled q p := by
  rw [statement_eq] at h
  obtain ⟨p, hp, rfl⟩ := map_eq_ok h
  exact ⟨p, parts_rendered hp, rfl⟩

/-- What a query compiles to is the text of its statement. -/
theorem statement_of_compile {c : Compiler} {q : Query} {now : Instant} {sql : String}
    (h : c.compile q now = .ok sql) : ∃ s, c.statement q now = .ok s ∧ sql = s.sql :=
  map_eq_ok h

/-- A query that compiles is assembled from its parts. -/
theorem compile_eq_ok {c : Compiler} {q : Query} {now : Instant} {sql : String}
    (h : c.compile q now = .ok sql) :
    ∃ p : Parts, p.Rendered c q now ∧ sql = (c.assembled q p).sql := by
  obtain ⟨s, hs, rfl⟩ := statement_of_compile h
  obtain ⟨p, hp, rfl⟩ := statement_eq_ok hs
  exact ⟨p, hp, rfl⟩

end Compiler

end EventAnalytics
