/-
Caller text stays quoted.

`Compiler.lexemes` lists the lexemes of a compiled query from the query
alone: fixed words and marks, the columns that paths resolve to, and the
texts of the caller, each whole inside one quotation. The first half of
this file shows that the compiled text is cut into just these.

# Two queries of one shape

The second half is about what a caller can influence. `Query.shape` keeps
of a query its granularity, its operators, the columns that its paths
resolve to, how many texts stand in each place and the limit, and forgets
the texts. Queries of one shape have lexemes that differ in what stands
between quotes and in nothing else: item by item the skeleton depends on
the shape of the item only (`skeleton_of_same_shape` for each kind), and
`map_eq_of_same_shape` carries that to lists.
-/
import EventAnalytics.Proofs.Query.Lexemes

namespace EventAnalytics

open Sql
open Time (Instant)

-- ============================================== lexemes of a query

/-- The lexemes of the predicate on event types, if there is one. -/
def typeLexemes : Option TypeFilter → List (List Lexeme)
  | none | some (.anyOf []) => []
  | some (.one t) => [[.word "type", .mark '=', .quoted .literal t]]
  | some (.anyOf ts) => [[.word "type", .word "IN"] ++ literalListLexemes ts]

def Query.range? (q : Query) (now : Instant) : Option TimeRange :=
  q.timeRange.bind fun text => (TimeRange.ofText text now).toOption

/-- The granularity that a query asks for. -/
def Query.granularity? (q : Query) : Option Granularity :=
  q.groupBy.bind Granularity.ofKey?

/-- The lexemes of the sort keys. -/
def orderLexemes (bucket : Option Granularity) (paths : List String) : List (List Lexeme) :=
  match bucket, paths with
  | some _, _ => [[.word "bucket"]]
  | none, _ :: _ => [[.quoted .identifier "count", .word "DESC"]]
  | none, [] => []

namespace Compiler

def projectionLexemes (c : Compiler) (q : Query) : List (List Lexeme) :=
  q.granularity?.toList.map bucketLexemes
    ++ q.breakdownBy.map (fun path => namedLexemes (pathLexemes path) path)
    ++ countLexemes :: (q.resolvedMetrics c.defaults).map metricLexemes

def predicateLexemes (q : Query) (now : Instant) : List (List Lexeme) :=
  typeLexemes q.types ++ (q.range? now).toList.map rangeLexemes
    ++ q.filters.map Condition.lexemes

def groupLexemes (q : Query) : List (List Lexeme) :=
  (q.granularity?.toList.map fun _ => [.word "bucket"]) ++ q.breakdownBy.map pathLexemes

/-- The lexemes of the statement for a query. -/
def lexemes (c : Compiler) (q : Query) (now : Instant) : List Lexeme :=
  [.word "SELECT"] ++ List.intercalate [.mark ','] (c.projectionLexemes q)
    ++ [.word "FROM", .word c.table]
    ++ clauseLexemes [.word "WHERE"] [.word "AND"] (predicateLexemes q now)
    ++ clauseLexemes [.word "GROUP", .word "BY"] [.mark ','] (groupLexemes q)
    ++ clauseLexemes [.word "ORDER", .word "BY"] [.mark ',']
        (orderLexemes q.granularity? q.breakdownBy)
    ++ limitLexemes (q.limit.map fun n => min n Query.maxLimit)

end Compiler

-- ==================================================== parts rendered

/-- What identifiers are made of can stand in a bare name. -/
theorem isNameChar_of_isIdentifierChar {c : Char} (h : isIdentifierChar c = true) :
    isNameChar c = true := by
  unfold isIdentifierChar at h
  unfold isNameChar isNameStart
  grind [isIdentifierStart]

/-- A plain identifier is one word. -/
theorem lexemes?_plainIdentifier {s : String} (h : isPlainIdentifier s = true) :
    lexemes? s = some [.word s] := by
  unfold isPlainIdentifier at h
  cases hs : s.toList with
  | nil =>
    rw [hs] at h
    cases h
  | cons c r =>
    rw [hs] at h
    simp only [Bool.and_eq_true, List.all_eq_true] at h
    have hne : s ≠ "" := by
      rintro rfl
      cases hs
    apply lexemes?_word hne
    rw [hs, List.all_cons, Bool.and_eq_true, List.all_eq_true]
    refine ⟨isNameChar_of_isIdentifierChar ?_, fun d hd => isNameChar_of_isIdentifierChar (h.2 d hd)⟩
    simp [isIdentifierChar, h.1]

theorem pathLexemes_type : pathLexemes "type" = [.word "type"] := by
  decide +kernel

/-- The lexemes of the clause that a type filter adds, if it adds one. -/
theorem lexemes?_types {t : Option TypeFilter} {clauses : List String}
    (h : (Compiler.typeCondition? t).toList.mapM Compiler.conditionSql = .ok clauses) :
    clauses.map lexemes? = (typeLexemes t).map some := by
  have hclauses : clauses.map lexemes?
      = (Compiler.typeCondition? t).toList.map fun c => some c.lexemes :=
    map_eq_of_mapM (fun c clause hc => lexemes?_condition (mapError_eq_ok hc)) h
  rw [hclauses]
  match t with
  | none => rfl
  | some (.one t) =>
    show [some (pathLexemes "type" ++ [.mark '=', .quoted .literal t])] = _
    rw [pathLexemes_type]
    rfl
  | some (.anyOf []) => rfl
  | some (.anyOf (t :: ts)) =>
    show [some (pathLexemes "type" ++ .word "IN" :: literalListLexemes (t :: ts))] = _
    rw [pathLexemes_type]
    rfl

namespace Compiler

variable {c : Compiler} {q : Query} {now : Instant} {p : Parts}

/-- The bucket of the parts is the one that the query asks for. -/
theorem Parts.Rendered.granularity (h : p.Rendered c q now) : p.bucket = q.granularity? := by
  rw [optional_eq_ok h.bucket]
  unfold Query.granularity?
  simp only [bucketOf_toOption]

/-- The range of the parts is the one that the query asks for. -/
theorem Parts.Rendered.timeRange (h : p.Rendered c q now) : p.range = q.range? now := by
  rw [optional_eq_ok h.range]
  unfold Query.range?
  simp only [rangeOf_toOption]

/-- The lexemes of what is projected: the bucket, the dimensions, then the
metrics. -/
theorem Parts.Rendered.lexemes?_projections (h : p.Rendered c q now) :
    (c.assembled q p).projections.map lexemes? = (c.projectionLexemes q).map some := by
  have hdimensions : (List.zipWith dimensionProjection p.dimensions q.breakdownBy).map lexemes?
      = q.breakdownBy.map fun path => some (namedLexemes (pathLexemes path) path) :=
    map_zipWith_of_mapM (k := dimensionProjection) (g := lexemes?)
      (fun _ _ he => lexemes?_dimension he) h.dimensions
  have hmetrics : p.metrics.map lexemes?
      = (q.resolvedMetrics c.defaults).map fun name => some (metricLexemes name) :=
    map_eq_of_mapM (fun _ _ ht => lexemes?_metric ht) h.metrics
  have hbucket : (p.bucket.toList.map bucketProjection).map lexemes?
      = (q.granularity?.toList.map bucketLexemes).map some := by
    rw [h.granularity]
    simp only [List.map_map, Function.comp_def, lexemes?_bucket]
  unfold assembled projectionLexemes
  rw [List.map_append, List.map_append, List.map_cons, hbucket, hdimensions, hmetrics,
    lexemes?_count]
  simp only [List.map_append, List.map_cons, List.map_map, Function.comp_def]

/-- The lexemes of the predicates: types, conditions, then the range. -/
theorem Parts.Rendered.lexemes?_predicates (h : p.Rendered c q now) :
    (c.assembled q p).predicates.map lexemes? = (predicateLexemes q now).map some := by
  have hfilters : p.filters.map lexemes? = q.filters.map fun f => some f.lexemes :=
    map_eq_of_mapM (fun _ _ hf => lexemes?_condition (mapError_eq_ok hf)) h.filters
  have hrange : (p.range.toList.map fun r => r.sql Column.ts.name).map lexemes?
      = ((q.range? now).toList.map rangeLexemes).map some := by
    rw [h.timeRange]
    simp only [List.map_map, Function.comp_def, lexemes?_range]
  unfold assembled predicateLexemes
  rw [List.map_append, List.map_append, lexemes?_types h.types, hrange, hfilters]
  simp only [List.map_append, List.map_map, Function.comp_def]

/-- The lexemes of what is grouped by: the bucket, then the dimensions. -/
theorem Parts.Rendered.lexemes?_grouping (h : p.Rendered c q now) :
    (c.assembled q p).grouping.map lexemes? = (groupLexemes q).map some := by
  have hdimensions : p.dimensions.map lexemes?
      = q.breakdownBy.map fun path => some (pathLexemes path) :=
    map_eq_of_mapM (fun _ _ he => lexemes?_pathSql (mapError_eq_ok he)) h.dimensions
  have hbucket : lexemes? bucketName = some [.word "bucket"] := by decide +kernel
  unfold assembled groupLexemes
  have hlabels : (q.granularity?.toList.map fun _ => bucketName).map lexemes?
      = (q.granularity?.toList.map fun _ => [Lexeme.word "bucket"]).map some := by
    simp only [List.map_map, Function.comp_def, hbucket]
  rw [List.map_append, hdimensions, h.granularity, hlabels]
  simp only [List.map_append, List.map_map, Function.comp_def]

/-- The lexemes of the sort keys: the bucket, or the dimensions where there
is none. -/
theorem lexemes?_sortKeys (bucket : Option Granularity) (paths : List String) :
    ((sortKeys bucket paths).map SortKey.sql).map lexemes?
      = (orderLexemes bucket paths).map some := by
  cases bucket with
  | some g =>
    have hkey : lexemes? (SortKey.sql ⟨bucketName, .ascending⟩) = some [.word "bucket"] := by
      decide +kernel
    exact congrArg (· :: []) hkey
  | none =>
    cases paths with
    | nil => rfl
    | cons path rest =>
      have hkey : lexemes? (SortKey.sql ⟨identifier countName, .descending⟩)
          = some [.quoted .identifier "count", .word "DESC"] := by
        decide +kernel
      exact congrArg (· :: []) hkey

/-- What a query compiles to is cut into the lexemes of the query. -/
theorem lexemes?_compile {sql : String} (htable : isPlainIdentifier c.table = true)
    (h : c.compile q now = .ok sql) : lexemes? sql = some (c.lexemes q now) := by
  obtain ⟨p, hp, rfl⟩ := compile_eq_ok h
  have hne : (c.assembled q p).projections ≠ [] := by
    simp [assembled]
  have hordering : ((c.assembled q p).ordering.map SortKey.sql).map lexemes?
      = (orderLexemes q.granularity? q.breakdownBy).map some := by
    show ((sortKeys p.bucket q.breakdownBy).map SortKey.sql).map lexemes? = _
    rw [hp.granularity]
    exact lexemes?_sortKeys _ _
  rw [lexemes?_select (lexemes?_plainIdentifier htable) hne hp.lexemes?_projections
    hp.lexemes?_predicates hp.lexemes?_grouping hordering]
  unfold lexemes
  simp only [List.append_assoc]
  rfl

end Compiler

-- ============================================================ shapes

/-- How an operand is made, without its texts. -/
inductive OperandShape where
  | absent
  | single
  | list (length : Nat)
  deriving DecidableEq, Repr

def Operand.shape : Operand → OperandShape
  | absent => .absent
  | single _ => .single
  | list ts => .list ts.length

def TypeFilter.shape : TypeFilter → OperandShape
  | one _ => .single
  | anyOf ts => .list ts.length

/-- The column that is read for a resolved path: its own, or the one of the
document that it points into. -/
def FieldRef.storage : FieldRef → Column
  | direct c | actor c | source c => c
  | inside d _ => d.column
  | fallback _ => Document.payload.column

/-- The column that is read for a path. -/
def storage? (path : String) : Option Column :=
  (FieldRef.ofPath path).toOption.map FieldRef.storage

structure ConditionShape where
  column : Option Column
  operator : Operator
  operand : OperandShape
  deriving DecidableEq, Repr

def Condition.shape (c : Condition) : ConditionShape :=
  ⟨storage? c.field, c.operator, c.value.shape⟩

/-- A query without the texts of its caller. -/
structure QueryShape where
  types : Option OperandShape
  isRanged : Bool
  filters : List ConditionShape
  groupBy : Option String
  /-- The columns of the dimensions. -/
  dimensions : List (Option Column)
  /-- How many metrics are shown, by name or by default. -/
  metricCount : Nat
  limit : Option Nat
  deriving DecidableEq, Repr

/-- The shape of a query, given the default metrics. -/
def Query.shape (q : Query) (d : MetricDefaults) : QueryShape where
  types := q.types.map TypeFilter.shape
  isRanged := q.timeRange.isSome
  filters := q.filters.map Condition.shape
  groupBy := q.groupBy
  dimensions := q.breakdownBy.map storage?
  metricCount := (q.resolvedMetrics d).length
  limit := q.limit

-- ================================================= skeletons by shape

/-- What depends on the shape of an item only, depends on the shapes of
the items only along a list. -/
theorem map_eq_of_same_shape {α σ β : Type} {shape : α → σ} {g : α → β}
    (hg : ∀ a a', shape a = shape a' → g a = g a') :
    ∀ {as as' : List α}, as.map shape = as'.map shape → as.map g = as'.map g := by
  intro as
  induction as with
  | nil =>
    intro as' h
    cases as' with
    | nil => rfl
    | cons a' as' => cases h
  | cons a as ih =>
    intro as' h
    cases as' with
    | nil => cases h
    | cons a' as' =>
      rw [List.map_cons, List.map_cons, List.cons.injEq] at h
      rw [List.map_cons, List.map_cons, hg a a' h.1, ih h.2]

/-- Where the items have no shape, only their number counts. -/
theorem map_eq_of_same_length {α β : Type} {g : α → β} (hg : ∀ a a', g a = g a')
    {as as' : List α} (h : as.length = as'.length) : as.map g = as'.map g := by
  refine @map_eq_of_same_shape _ _ _ (fun _ => ()) _ (fun a a' _ => hg a a') _ _ ?_
  rw [List.map_const', List.map_const', h]

/-- The skeleton of the expression that reads a column, or a place in it
when it holds a document. -/
def storageSkeleton : Option Column → List Lexeme
  | none => []
  | some .payload => skeleton (extractionLexemes .payload [])
  | some .ctx => skeleton (extractionLexemes .ctx [])
  | some c => [.word c.name]

/-- Of an extraction only the column shows. -/
theorem skeleton_extraction (d : Document) (segments : List String) :
    skeleton (extractionLexemes d segments) = storageSkeleton (some d.column) := by
  cases d <;> rfl

/-- Of a path only its column shows. -/
theorem skeleton_path (path : String) :
    skeleton (pathLexemes path) = storageSkeleton (storage? path) := by
  cases hf : FieldRef.ofPath path with
  | error e => simp [pathLexemes, storage?, hf, storageSkeleton, skeleton, Except.toOption]
  | ok f =>
    have hstorage : storage? path = some f.storage := by
      simp [storage?, hf, Except.toOption]
    have hword : ∀ c : Column, c ≠ .payload → c ≠ .ctx →
        skeleton [.word c.name] = storageSkeleton (some c) := by
      intro c hpayload hctx
      cases c <;> first | rfl | exact absurd rfl hpayload | exact absurd rfl hctx
    rw [hstorage]
    rcases FieldRef.ofPath_cases hf with ⟨c, hc, hpayload, hctx⟩ | ⟨d, r, rfl, -⟩ | ⟨r, rfl, -⟩
    · have hplain : pathLexemes path = [.word c.name] ∧ f.storage = c := by
        cases f <;> cases hc <;> exact ⟨by simp [pathLexemes, hf], rfl⟩
      rw [hplain.1, hplain.2]
      exact hword c hpayload hctx
    · simp only [pathLexemes, hf]
      exact skeleton_extraction d _
    · simp only [pathLexemes, hf]
      exact skeleton_extraction .payload _

/-- Of a list of texts only the number shows. -/
theorem skeleton_literalList {ts ts' : List String} (h : ts.length = ts'.length) :
    skeleton (literalListLexemes ts) = skeleton (literalListLexemes ts') := by
  have hitems : ∀ us : List String,
      skeleton (literalListLexemes us)
        = .mark '(' :: List.intercalate [.mark ','] (us.map fun _ => [.quoted .literal ""])
          ++ [.mark ')'] := by
    intro us
    simp [literalListLexemes, skeleton_intercalate, Function.comp_def]
  rw [hitems, hitems, map_eq_of_same_length (fun _ _ => rfl) h]

/-- Of a single text nothing shows. -/
theorem skeleton_single (op : Operator) (t t' : String) :
    skeleton (singleLexemes op t) = skeleton (singleLexemes op t') := by
  unfold singleLexemes
  cases op.comparison? with
  | some sign => simp
  | none =>
    cases op.pattern? with
    | some shape => simp
    | none => rfl

/-- Of a comparison only the operator and the number of texts show. -/
theorem skeleton_comparison (op : Operator) {v v' : Operand} (h : v.shape = v'.shape) :
    skeleton (comparisonLexemes op v) = skeleton (comparisonLexemes op v') := by
  cases v with
  | absent =>
    cases v' with
    | absent => rfl
    | single t' => cases h
    | list ts' => cases h
  | single t =>
    cases v' with
    | absent => cases h
    | single t' =>
      have hsingle := skeleton_single op t t'
      cases op with
      | isSet | isNotSet => rfl
      | _ => exact hsingle
    | list ts' => cases h
  | list ts =>
    cases v' with
    | absent => cases h
    | single t' => cases h
    | list ts' =>
      have hlist := skeleton_literalList (OperandShape.list.inj h)
      cases op with
      | isIn => exact congrArg (.word "IN" :: ·) hlist
      | notIn => exact congrArg (fun l => .word "NOT" :: .word "IN" :: l) hlist
      | _ => rfl

/-- Conditions of one shape have one skeleton. -/
theorem skeleton_condition {c c' : Condition} (h : c.shape = c'.shape) :
    skeleton c.lexemes = skeleton c'.lexemes := by
  obtain ⟨hcolumn, hoperator, hoperand⟩ := ConditionShape.mk.inj h
  unfold Condition.lexemes
  rw [skeleton_append, skeleton_append, skeleton_path, skeleton_path, hcolumn, hoperator,
    skeleton_comparison _ hoperand]

/-- Type filters of one shape have one skeleton. -/
theorem skeleton_types {t t' : Option TypeFilter}
    (h : t.map TypeFilter.shape = t'.map TypeFilter.shape) :
    (typeLexemes t).map skeleton = (typeLexemes t').map skeleton := by
  match t, t', h with
  | none, none, _ => rfl
  | some (.one t), some (.one t'), _ => rfl
  | some (.anyOf []), some (.anyOf []), _ => rfl
  | some (.anyOf (t :: ts)), some (.anyOf (t' :: ts')), h =>
    have hlength := OperandShape.list.inj (Option.some.inj h)
    exact congrArg (fun l => [.word "type" :: .word "IN" :: l]) (skeleton_literalList hlength)

/-- The skeleton of a clause is made of those of its keyword and its
items. -/
theorem skeleton_clause (keyword separator : List Lexeme) (items : List (List Lexeme)) :
    skeleton (clauseLexemes keyword separator items)
      = clauseLexemes (skeleton keyword) (skeleton separator) (items.map skeleton) := by
  unfold clauseLexemes
  cases items with
  | nil => rfl
  | cons i is =>
    show skeleton (keyword ++ _) = skeleton keyword ++ _
    rw [skeleton_append, skeleton_intercalate]

-- Each clause is compared on its own: what the queries differ in stands in
-- quotations or in pointers, which skeletons leave out.
section Clauses

variable {c c' : Compiler} {q q' : Query} {now now' : Instant}

/-- Paths to one column have one skeleton. -/
theorem skeleton_path_of_storage {path path' : String} (h : storage? path = storage? path') :
    skeleton (pathLexemes path) = skeleton (pathLexemes path') := by
  rw [skeleton_path, skeleton_path, h]

/-- Of a metric nothing shows, as its name stands in quotes and in a pointer. -/
theorem skeleton_metric (name name' : String) :
    skeleton (metricLexemes name) = skeleton (metricLexemes name') := by
  simp [metricLexemes, namedLexemes, skeleton_extraction]

/-- Projections of the same columns and of as many metrics have the same
skeletons. -/
theorem skeleton_projections (hbucket : q.granularity? = q'.granularity?)
    (hdimensions : q.breakdownBy.map storage? = q'.breakdownBy.map storage?)
    (hmetrics : (q.resolvedMetrics c.defaults).length = (q'.resolvedMetrics c'.defaults).length) :
    (c.projectionLexemes q).map skeleton = (c'.projectionLexemes q').map skeleton := by
  have hnamed : ∀ path path', storage? path = storage? path' →
      skeleton (namedLexemes (pathLexemes path) path)
        = skeleton (namedLexemes (pathLexemes path') path') := by
    intro path path' hp
    simp [namedLexemes, skeleton_path_of_storage hp]
  unfold Compiler.projectionLexemes
  simp only [List.map_append, List.map_cons, List.map_map, Function.comp_def]
  rw [hbucket, map_eq_of_same_shape hnamed hdimensions,
    map_eq_of_same_length skeleton_metric hmetrics]

/-- Of a range nothing shows, as its ends are literals. -/
theorem skeleton_range (r r' : TimeRange) :
    skeleton (rangeLexemes r) = skeleton (rangeLexemes r') := by
  simp [rangeLexemes]

/-- Predicates have the same skeletons when their conditions have the same
shapes. -/
theorem skeleton_predicates (htypes : q.types.map TypeFilter.shape = q'.types.map TypeFilter.shape)
    (hrange : (q.range? now).isSome = (q'.range? now').isSome)
    (hfilters : q.filters.map Condition.shape = q'.filters.map Condition.shape) :
    (Compiler.predicateLexemes q now).map skeleton
      = (Compiler.predicateLexemes q' now').map skeleton := by
  have hranges : ((q.range? now).toList.map rangeLexemes).map skeleton
      = ((q'.range? now').toList.map rangeLexemes).map skeleton := by
    rw [List.map_map, List.map_map]
    apply map_eq_of_same_length skeleton_range
    rw [Option.length_toList, Option.length_toList, hrange]
  unfold Compiler.predicateLexemes
  simp only [List.map_append]
  rw [skeleton_types htypes, hranges]
  simp only [List.map_map, Function.comp_def]
  rw [map_eq_of_same_shape (fun _ _ hc => skeleton_condition hc) hfilters]

/-- So have the groups of the same columns. -/
theorem skeleton_groups (hbucket : q.granularity? = q'.granularity?)
    (hdimensions : q.breakdownBy.map storage? = q'.breakdownBy.map storage?) :
    (Compiler.groupLexemes q).map skeleton = (Compiler.groupLexemes q').map skeleton := by
  unfold Compiler.groupLexemes
  simp only [List.map_append, List.map_map, Function.comp_def]
  rw [hbucket, map_eq_of_same_shape (fun _ _ hp => skeleton_path_of_storage hp) hdimensions]

/-- So have the sort keys: with a bucket nothing else is sorted by, and
without one it matters only whether there are dimensions. -/
theorem skeleton_order (bucket : Option Granularity)
    (hdimensions : q.breakdownBy.map storage? = q'.breakdownBy.map storage?) :
    (orderLexemes bucket q.breakdownBy).map skeleton
      = (orderLexemes bucket q'.breakdownBy).map skeleton := by
  cases bucket with
  | some g => rfl
  | none =>
    match q.breakdownBy, q'.breakdownBy, hdimensions with
    | [], [], _ => rfl
    | _ :: _, _ :: _, _ => rfl

/-- Of a whole query only the shape shows. -/
theorem skeleton_of_same_shape (htable : c.table = c'.table)
    (h : q.shape c.defaults = q'.shape c'.defaults)
    (hrange : (q.range? now).isSome = (q'.range? now').isSome) :
    skeleton (c.lexemes q now) = skeleton (c'.lexemes q' now') := by
  obtain ⟨htypes, -, hfilters, hgroupBy, hdimensions, hmetrics, hlimit⟩ := QueryShape.mk.inj h
  have hbucket : q.granularity? = q'.granularity? := by
    unfold Query.granularity?
    rw [hgroupBy]
  unfold Compiler.lexemes
  simp only [skeleton_append, skeleton_intercalate, skeleton_clause]
  rw [skeleton_projections hbucket hdimensions hmetrics,
    skeleton_predicates htypes hrange hfilters, skeleton_groups hbucket hdimensions, hbucket,
    skeleton_order _ hdimensions, htable, hlimit]

end Clauses

/-- A query that compiles has a range when it asks for one. -/
theorem Compiler.isSome_range {c : Compiler} {q : Query} {now : Instant} {sql : String}
    (h : c.compile q now = .ok sql) : (q.range? now).isSome = q.timeRange.isSome := by
  obtain ⟨p, hp, -⟩ := compile_eq_ok h
  rw [← hp.timeRange]
  exact optional_isSome hp.range

/-- Compiled SQL ends outside quotes and has the lexemes of its query, in
which the caller's texts stand whole between quotes; and whatever else is
compiled for the same table to the same shape differs only there. -/
theorem caller_text_stays_quoted {c : Compiler} {q : Query} {now : Instant} {sql : String}
    (htable : isPlainIdentifier c.table = true) (h : c.compile q now = .ok sql) :
    lexemes? sql = some (c.lexemes q now)
      ∧ ∀ (defaults : MetricDefaults) (q' : Query) (now' : Instant) (sql' : String),
          Compiler.compile ⟨c.table, defaults⟩ q' now' = .ok sql' →
          q'.shape defaults = q.shape c.defaults →
          (lexemes? sql').map skeleton = (lexemes? sql).map skeleton := by
  have hlexemes := Compiler.lexemes?_compile htable h
  refine ⟨hlexemes, ?_⟩
  intro defaults q' now' sql' h' hshape
  have hranged : q'.timeRange.isSome = q.timeRange.isSome := congrArg QueryShape.isRanged hshape
  have hrange : (q'.range? now').isSome = (q.range? now).isSome := by
    rw [Compiler.isSome_range h', Compiler.isSome_range h, hranged]
  have hlexemes' : lexemes? sql' = some (Compiler.lexemes ⟨c.table, defaults⟩ q' now') :=
    Compiler.lexemes?_compile htable h'
  have hskeleton : skeleton (Compiler.lexemes ⟨c.table, defaults⟩ q' now')
      = skeleton (c.lexemes q now) :=
    skeleton_of_same_shape rfl hshape hrange
  rw [hlexemes, hlexemes', Option.map_some, Option.map_some, hskeleton]

/-- A query that takes one text along every way into the statement that
lets all texts pass. -/
def queryOfText (text : String) : Query where
  types := some (.anyOf [text, "--"])
  timeRange := some "2024-01-01,2024-01-02"
  filters := [⟨"payload.note", .contains, .single text⟩, ⟨"actor.id", .notIn, .list [text, ")"]⟩]
  groupBy := some "day"
  breakdownBy := ["ctx.region", "source.product"]
  metrics := some ["totalCost", "usage.inputTokens"]
  limit := some 5

/-- A text of quotes and a harmless one are cut alike. -/
theorem quotes_stay_quoted :
    ∃ sql sql', Compiler.compile {} (queryOfText "' OR \"1\" = '1") .epoch = .ok sql
      ∧ Compiler.compile {} (queryOfText "x") .epoch = .ok sql'
      ∧ lexemes? sql = some (Compiler.lexemes {} (queryOfText "' OR \"1\" = '1") .epoch)
      ∧ (lexemes? sql').map skeleton = (lexemes? sql).map skeleton := by
  have hok : ∀ {r : Except QueryError String}, r.toOption.isSome = true → ∃ sql, r = .ok sql := by
    rintro (e | sql) h
    · cases h
    · exact ⟨sql, rfl⟩
  have hquotes : (Compiler.compile {} (queryOfText "' OR \"1\" = '1") .epoch).toOption.isSome
      = true := by
    decide +kernel
  have hplain : (Compiler.compile {} (queryOfText "x") .epoch).toOption.isSome = true := by
    decide +kernel
  obtain ⟨sql, h⟩ := hok hquotes
  obtain ⟨sql', h'⟩ := hok hplain
  obtain ⟨hlexemes, hsame⟩ := caller_text_stays_quoted (by decide +kernel) h
  exact ⟨sql, sql', h, h', hlexemes, hsame _ _ _ _ h' (by decide +kernel)⟩

end EventAnalytics
