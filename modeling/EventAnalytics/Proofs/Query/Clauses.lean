/-
The clauses of a compiled statement.

Every clause is told here by what the query asks for. The select list has
the projections of the columns and the grouping their keys, so what is
shown is grouped by, or computed over a group. The predicates are those of
the types, the range and the conditions (`map_predicates`); order and limit
are texts of their own. `sql_eq_clauses` puts the statement together from
these, and a clause is there if and only if it has an item.
-/
import EventAnalytics.Proofs.Query.Columns

namespace EventAnalytics

open Sql
open Time (Instant)

-- ============================================================ clauses

/-- A clause is absent just when there is nothing in it. -/
theorem Sql.clause_eq_empty_iff {keyword separator : String} {items : List String} :
    clause keyword separator items = "" ↔ items = [] := by
  cases items with
  | nil => exact iff_of_true rfl rfl
  | cons item items =>
    have hspace : (clause keyword separator (item :: items)).toList ≠ [] := by
      simp [clause, String.toList_append]
    exact iff_of_false (fun h => hspace (by rw [h]; rfl)) nofun

/-- The predicates that a query asks for; `none` stands for one that cannot
be rendered. -/
def Query.predicates (q : Query) (now : Instant) : List (Option String) :=
  (Compiler.typeSql? q.types).toList.map some
    ++ (q.timeRange.toList.map fun text =>
      (TimeRange.ofText text now).toOption.map fun r => r.sql Column.ts.name)
    ++ q.filters.map fun c => c.sql.toOption

/-- What a query has its rows sorted by. -/
def Query.sorting (q : Query) : List String :=
  match q.groupBy, q.breakdownBy with
  | some _, _ => ["bucket"]
  | none, _ :: _ => ["\"count\" DESC"]
  | none, [] => []

/-- The limit of a statement, which is the most rows at most. -/
def Query.limitSql (q : Query) : String :=
  match q.limit with
  | some n => " LIMIT " ++ String.ofList (Text.numeral (min n maxLimit))
  | none => ""

theorem typeSql?_eq_none_iff {types : Option TypeFilter} :
    Compiler.typeSql? types = none ↔ types = none ∨ types = some (.anyOf []) := by
  match types with
  | none => simp [Compiler.typeSql?]
  | some (.anyOf []) => simp [Compiler.typeSql?]
  | some (.one t) => simp [Compiler.typeSql?]
  | some (.anyOf (t :: ts)) => simp [Compiler.typeSql?]

theorem predicates_eq_nil_iff (q : Query) (now : Instant) :
    q.predicates now = [] ↔ (q.types = none ∨ q.types = some (.anyOf [])) ∧ q.timeRange = none
      ∧ q.filters = [] := by
  unfold Query.predicates
  rw [← typeSql?_eq_none_iff, List.append_eq_nil_iff, List.append_eq_nil_iff, List.map_eq_nil_iff,
    List.map_eq_nil_iff, List.map_eq_nil_iff, Option.toList_eq_nil_iff, Option.toList_eq_nil_iff,
    and_assoc]

namespace Compiler.Parts.Rendered

variable {c : Compiler} {q : Query} {now : Instant} {p : Parts}

/-- The predicates of a statement are those that its query asks for. -/
theorem map_predicates (h : p.Rendered c q now) :
    (c.assembled q p).predicates.map some = q.predicates now := by
  have htypes : p.types = (typeSql? q.types).toList :=
    Except.ok.inj (h.types.symm.trans (mapM_typeCondition q.types))
  have hrange : (p.range.toList.map fun r => r.sql Column.ts.name).map some
      = q.timeRange.toList.map fun text =>
        (TimeRange.ofText text now).toOption.map fun r => r.sql Column.ts.name := by
    have htexts := congrArg (List.map (Option.map fun r => r.sql Column.ts.name))
      (optional_map_some h.range)
    rw [List.map_map, List.map_map] at htexts
    rw [List.map_map]
    simpa only [Function.comp_def, Option.map_some, rangeOf_toOption] using htexts
  have hfilters : p.filters.map some = q.filters.map fun c => c.sql.toOption := by
    apply map_eq_of_mapM _ h.filters
    intro condition clause hclause
    rw [mapError_eq_ok hclause]
    rfl
  unfold assembled Query.predicates
  rw [List.map_append, List.map_append, htypes, hrange, hfilters]

theorem sorting_eq (h : p.Rendered c q now) :
    (sortKeys p.bucket q.breakdownBy).map SortKey.sql = q.sorting := by
  have hcount : SortKey.sql ⟨identifier countName, .descending⟩ = "\"count\" DESC" := by
    decide +kernel
  have hsome := optional_isSome h.bucket
  unfold Query.sorting
  cases hb : p.bucket with
  | some g =>
    obtain ⟨key, hkey⟩ := Option.isSome_iff_exists.1 (hb ▸ hsome).symm
    rw [hkey]
    rfl
  | none =>
    rw [hb] at hsome
    have hnone : q.groupBy = none := Option.isNone_iff_eq_none.1 (by simpa using hsome.symm)
    rw [hnone]
    cases q.breakdownBy with
    | nil => rfl
    | cons path paths => exact congrArg (fun k => [k]) hcount

/-- The text of a statement, clause by clause. -/
theorem sql_eq_clauses (h : p.Rendered c q now) :
    (c.assembled q p).sql
      = "SELECT " ++ String.intercalate ", " (c.assembled q p).projections ++ " FROM " ++ c.table
        ++ clause "WHERE" " AND " (c.assembled q p).predicates
        ++ clause "GROUP BY" ", " ((q.columns c.defaults).filterMap OutputColumn.key?)
        ++ clause "ORDER BY" ", " q.sorting ++ q.limitSql := by
  have hlist : (c.assembled q p).selectList
      = String.intercalate ", " (c.assembled q p).projections := by
    unfold Select.selectList
    rw [if_neg (by simp [assembled])]
  have hordering : (c.assembled q p).ordering.map SortKey.sql = q.sorting := h.sorting_eq
  have hlimit : (c.assembled q p).limit = q.limit.map fun n => min n Query.maxLimit := rfl
  unfold Select.sql Query.limitSql
  rw [hlist, h.filterMap_key?, hordering, hlimit]
  cases q.limit <;> rfl

end Compiler.Parts.Rendered

-- ============================================================== limits

/-- A limit asked for by itself is cut down twice, which is once. -/
theorem compile_withLimit (c : Compiler) (q : Query) (n : Nat) (now : Instant) :
    c.compile (q.withLimit n) now = c.compile { q with limit := some n } now := by
  have hcut : min (min n Query.maxLimit) Query.maxLimit = min n Query.maxLimit := by
    rw [Nat.min_assoc, Nat.min_self]
  have hparts : c.parts (q.withLimit n) now = c.parts { q with limit := some n } now := rfl
  have hassembled : ∀ p, c.assembled (q.withLimit n) p
      = c.assembled { q with limit := some n } p := by
    intro p
    simp only [Compiler.assembled, Query.withLimit, Option.map_some, hcut]
  unfold Compiler.compile
  rw [Compiler.statement_eq, Compiler.statement_eq, hparts, funext hassembled]

-- ============================================================= the law

/-- A compiled query, for whatever table and moment.

It selects its columns in order: the bucket if there is one, the
dimensions, the number of events and the metrics. It groups by the keys of
those that call no aggregate function, in order, and by nothing else; it
keeps the rows that satisfy the clauses of types, range and conditions; it
is sorted by its bucket, or by the number of events if it is only broken
down; and its limit is cut down to the most, whichever way it came in. A
clause without items is absent. -/
theorem statement_groups_what_it_shows {c : Compiler} {q : Query} {now : Instant} {sql : String}
    (h : c.compile q now = .ok sql) :
    (∃ projections predicates grouping,
        sql = "SELECT " ++ String.intercalate ", " projections ++ " FROM " ++ c.table
          ++ clause "WHERE" " AND " predicates ++ clause "GROUP BY" ", " grouping
          ++ clause "ORDER BY" ", " q.sorting ++ q.limitSql
        ∧ projections.map some = (q.columns c.defaults).map OutputColumn.sql?
        ∧ grouping = (q.columns c.defaults).filterMap OutputColumn.key?
        ∧ projections.map isAggregate
          = (q.columns c.defaults).map (fun col => col.key?.isNone)
        ∧ (clause "GROUP BY" ", " grouping = "" ↔ ∀ text ∈ projections, isAggregate text = true)
        ∧ predicates.map some = q.predicates now
        ∧ (clause "WHERE" " AND " predicates = "" ↔
          (q.types = none ∨ q.types = some (.anyOf [])) ∧ q.timeRange = none ∧ q.filters = []))
      ∧ ∀ n, c.compile (q.withLimit n) now = c.compile { q with limit := some n } now := by
  obtain ⟨p, hp, rfl⟩ := Compiler.compile_eq_ok h
  have haggregates : (c.assembled q p).projections.map isAggregate
      = (q.columns c.defaults).map fun col => col.key?.isNone :=
    map_eq_of_map (fun _ _ htext => OutputColumn.isAggregate_sql? htext) hp.map_sql?
  refine ⟨⟨_, _, _, hp.sql_eq_clauses, hp.map_sql?, rfl, haggregates, ?_, hp.map_predicates, ?_⟩,
    fun n => compile_withLimit c q n now⟩
  · have hall : (∀ text ∈ (c.assembled q p).projections, isAggregate text = true)
        ↔ ∀ b ∈ (c.assembled q p).projections.map isAggregate, b = true := by
      rw [List.forall_mem_map]
    rw [clause_eq_empty_iff, List.filterMap_eq_nil_iff, hall, haggregates, List.forall_mem_map]
    simp only [Option.isNone_iff_eq_none]
  · rw [clause_eq_empty_iff, ← predicates_eq_nil_iff q now, ← hp.map_predicates,
      List.map_eq_nil_iff]

/-- Costs by day and model, more of them than there may be. -/
def dailyCosts : Query where
  groupBy := some "day"
  breakdownBy := ["payload.model"]
  metrics := some ["totalCost"]
  limit := some 50000

/-- The day and the model are grouped by, and there is no condition. -/
theorem daily_costs_are_grouped :
    ∃ sql projections, Compiler.compile {} dailyCosts .epoch = .ok sql
      ∧ projections.map isAggregate = [false, false, true, true]
      ∧ sql = "SELECT " ++ (String.intercalate ", " projections
        ++ " FROM events GROUP BY bucket, json_extract_string(payload, '$.model')"
        ++ " ORDER BY bucket LIMIT 10000") := by
  have hok : (Compiler.compile {} dailyCosts .epoch).toOption.isSome = true := by decide +kernel
  obtain ⟨sql, hsql⟩ := Option.isSome_iff_exists.1 hok
  obtain ⟨⟨projections, predicates, grouping, htext, -, hgrouping, haggregates, -, hpredicates, -⟩,
    -⟩ := statement_groups_what_it_shows (toOption_eq_some hsql)
  refine ⟨sql, projections, toOption_eq_some hsql, haggregates, ?_⟩
  have hnone : predicates = [] := List.map_eq_nil_iff.1 hpredicates
  have hkeys : grouping = ["bucket", "json_extract_string(payload, '$.model')"] :=
    hgrouping.trans (by decide +kernel)
  have hrest : " FROM " ++ ("events" ++ (clause "WHERE" " AND " []
        ++ (clause "GROUP BY" ", " ["bucket", "json_extract_string(payload, '$.model')"]
          ++ (clause "ORDER BY" ", " dailyCosts.sorting ++ dailyCosts.limitSql))))
      = " FROM events GROUP BY bucket, json_extract_string(payload, '$.model')"
        ++ " ORDER BY bucket LIMIT 10000" := by
    decide +kernel
  rw [htext, hnone, hkeys]
  simp only [String.append_assoc]
  exact congrArg (fun rest => "SELECT " ++ (String.intercalate ", " projections ++ rest)) hrest

end EventAnalytics
