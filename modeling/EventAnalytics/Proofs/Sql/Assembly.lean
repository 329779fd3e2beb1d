/-
Statements that are put together call by call.

A call adds to a clause at its end, and a time bucket adds to three clauses
at once, at the front of each. So a clause is known from the calls alone:
what was put in front, the last first, and then what was added behind, in
order. This is one induction for all clauses (`foldl_call`); it needs of a
clause only that a single call puts something in front of it, or something
behind it.

Calls that add to different clauses do not meet, and what is put in front
does not meet what is added behind. Hence they can change places.
-/
import EventAnalytics.Sql.Select
import Mathlib.Data.List.Induction

namespace EventAnalytics.Sql

-- =============================================================== calls

/-- The clauses that calls add to. -/
inductive Clause where
  | selection
  | condition
  | grouping
  | ordering
  | limit
  deriving DecidableEq, Repr

/-- A call that adds to a statement. -/
inductive Call where
  | project (expr : String)
  | projectAs (expr name : String)
  | filter (predicate : String)
  | group (expr : String)
  | order (expr : String) (direction : Direction)
  | limitTo (n : Nat)
  | bucketed (g : Granularity) (column name : String)
  | dimension (expr name : String)
  deriving DecidableEq, Repr

namespace Call

/-- The clauses that a call adds to. -/
def clauses : Call → List Clause
  | project _ => [.selection]
  | projectAs _ _ => [.selection]
  | filter _ => [.condition]
  | group _ => [.grouping]
  | order _ _ => [.ordering]
  | limitTo _ => [.limit]
  | bucketed _ _ _ => [.selection, .grouping, .ordering]
  | dimension _ _ => [.selection, .grouping]

def isBucketed : Call → Bool
  | bucketed _ _ _ => true
  | _ => false

/-- Two calls that follow each other and can change places: they add to
different clauses, or one adds in front and the other does not. -/
def MaySwap (a b : Call) : Prop :=
  (∀ clause ∈ a.clauses, clause ∉ b.clauses) ∨ a.isBucketed ≠ b.isBucketed

/-- The label that a call puts in front of what is selected. -/
def label? : Call → Option String
  | bucketed g column name => some (g.labelSql column ++ " AS " ++ name)
  | _ => none

/-- The name of the bucket that a call puts in front of the grouping and of
the ordering. -/
def bucket? : Call → Option String
  | bucketed _ _ name => some name
  | _ => none

/-- What a call adds behind what is selected. -/
def item? : Call → Option String
  | project expr => some expr
  | projectAs expr name => some (expr ++ " AS " ++ name)
  | dimension expr name => some (expr ++ " AS " ++ name)
  | _ => none

def predicate? : Call → Option String
  | filter predicate => some predicate
  | _ => none

/-- What a call adds behind the grouping. -/
def key? : Call → Option String
  | group expr => some expr
  | dimension expr _ => some expr
  | _ => none

/-- What a call adds behind the ordering. -/
def sortKey? : Call → Option String
  | order expr .ascending => some expr
  | order expr .descending => some (expr ++ " DESC")
  | _ => none

def limit? : Call → Option Nat
  | limitTo n => some n
  | _ => none

end Call

namespace Select

/-- The statement after a call. -/
def call (s : Select) : Call → Select
  | .project expr => s.project expr
  | .projectAs expr name => s.projectAs expr name
  | .filter predicate => s.filter predicate
  | .group expr => s.group expr
  | .order expr direction => s.order expr direction
  | .limitTo n => s.limitTo n
  | .bucketed g column name => s.bucketed g column name
  | .dimension expr name => s.dimension expr name

/-- The statement over a table after some calls. -/
def ofCalls (table : String) (calls : List Call) : Select :=
  calls.foldl call (ofTable table)

/-- What calls select: the labels of the buckets, the last first, and then
the items in order. -/
def selected (calls : List Call) : List String :=
  (calls.filterMap Call.label?).reverse ++ calls.filterMap Call.item?

/-- What calls group by: the buckets, the last first, and then the keys in
order. -/
def grouped (calls : List Call) : List String :=
  (calls.filterMap Call.bucket?).reverse ++ calls.filterMap Call.key?

/-- What calls sort by: the buckets, the last first, and then the keys in
order. -/
def sorted (calls : List Call) : List String :=
  (calls.filterMap Call.bucket?).reverse ++ calls.filterMap Call.sortKey?

-- ============================================================= clauses

/-- A list to which each call adds in front or behind holds after some calls
what was put in front, the last first, and what was added behind. -/
theorem foldl_call (part : Select → List String) (front back : Call → Option String)
    (h : ∀ s c, part (s.call c) = (front c).toList ++ (part s ++ (back c).toList))
    (calls : List Call) (s : Select) :
    part (calls.foldl call s)
      = (calls.filterMap front).reverse ++ (part s ++ calls.filterMap back) := by
  induction calls generalizing s with
  | nil => simp
  | cons c calls ih =>
    rw [List.foldl_cons, ih, h]
    cases hfront : front c <;> cases hback : back c <;> simp [hfront, hback]

variable (table : String) (calls : List Call)

theorem table_ofCalls : (ofCalls table calls).table = table := by
  have hcall : ∀ s c, (call s c).table = s.table := by
    intro s c
    cases c <;> rfl
  have hfold : ∀ s : Select, (calls.foldl call s).table = s.table := by
    induction calls with
    | nil => exact fun _ => rfl
    | cons c calls ih => exact fun s => (ih _).trans (hcall s c)
  exact hfold _

/-- What is projected is the labels of the buckets, the last first, and then
the rest in order. -/
theorem projections_ofCalls : (ofCalls table calls).projections = selected calls := by
  refine foldl_call projections _ _ (fun s c => ?_) calls (ofTable table)
  cases c <;> simp [call, project, projectAs, filter, group, order, limitTo, bucketed, dimension,
    aliased, Call.label?, Call.item?]

theorem predicates_ofCalls :
    (ofCalls table calls).predicates = calls.filterMap Call.predicate? := by
  have hpart := foldl_call predicates (fun _ => none) Call.predicate? (fun s c => ?_) calls
    (ofTable table)
  · have hnone : calls.filterMap (fun _ => (none : Option String)) = [] := by simp
    rw [hnone] at hpart
    exact hpart
  · cases c <;> simp [call, project, projectAs, filter, group, order, limitTo, bucketed, dimension,
      Call.predicate?]

/-- What is grouped by is put together in the same way. -/
theorem grouping_ofCalls : (ofCalls table calls).grouping = grouped calls := by
  refine foldl_call grouping _ _ (fun s c => ?_) calls (ofTable table)
  cases c <;> simp [call, project, projectAs, filter, group, order, limitTo, bucketed, dimension,
    Call.bucket?, Call.key?]

/-- The sort keys as they are written. -/
theorem ordering_ofCalls : (ofCalls table calls).ordering.map SortKey.sql = sorted calls := by
  refine foldl_call (fun s => s.ordering.map SortKey.sql) _ _ (fun s c => ?_) calls
    (ofTable table)
  cases c with
  | order expr direction =>
    cases direction <;> simp [call, order, SortKey.sql, Call.bucket?, Call.sortKey?]
  | _ => simp [call, project, projectAs, filter, group, limitTo, bucketed, dimension, SortKey.sql,
      Call.bucket?, Call.sortKey?]

/-- Only the last limit counts. -/
theorem limit_ofCalls : (ofCalls table calls).limit = (calls.filterMap Call.limit?).getLast? := by
  induction calls using List.reverseRecOn with
  | nil => rfl
  | append_singleton calls c ih =>
    have hlast : ofCalls table (calls ++ [c]) = (ofCalls table calls).call c := by
      simp [ofCalls]
    rw [hlast, List.filterMap_append]
    cases c with
    | limitTo n => simp [call, limitTo, Call.limit?]
    | _ => simpa [call, project, projectAs, filter, group, order, bucketed, dimension,
        Call.limit?] using ih

-- ================================================================ text

/-- A clause as words: its keyword and its items, or nothing at all without
an item. -/
def clauseWords (keyword separator : String) (items : List String) : List String :=
  if items = [] then [] else [keyword, String.intercalate separator items]

/-- A limit as words. -/
def limitWords : Option Nat → List String
  | none => []
  | some n => ["LIMIT", String.ofList (Text.numeral n)]

/-- Texts with a blank in front of each. -/
def spaced (words : List String) : String := String.join (words.map (" " ++ ·))

theorem intercalate_cons (word : String) (words : List String) :
    String.intercalate " " (word :: words) = word ++ spaced words := by
  induction words generalizing word with
  | nil => simp [spaced]
  | cons next words ih =>
    rw [String.intercalate_cons_cons, ih]
    simp [spaced, String.append_assoc]

/-- A clause is its words, each with a blank in front. -/
theorem clause_eq_spaced (keyword separator : String) (items : List String) :
    clause keyword separator items = spaced (clauseWords keyword separator items) := by
  unfold clause clauseWords spaced
  cases items with
  | nil => rfl
  | cons item items => simp [String.append_assoc]

/-- A statement is its words, with blanks between them. -/
theorem sql_eq_intercalate (s : Select) :
    s.sql = String.intercalate " "
      (["SELECT", s.selectList, "FROM", s.table]
        ++ clauseWords "WHERE" " AND " s.predicates
        ++ clauseWords "GROUP BY" ", " s.grouping
        ++ clauseWords "ORDER BY" ", " (s.ordering.map SortKey.sql)
        ++ limitWords s.limit) := by
  unfold sql
  simp only [clause_eq_spaced, List.append_assoc, List.cons_append, List.nil_append,
    intercalate_cons]
  apply String.toList_inj.1
  cases s.limit with
  | none => simp [spaced, limitWords]
  | some n => simp [spaced, limitWords]

-- ============================================================== order

/-- A statement sorts its rows when a sort key or a bucket was asked for. -/
theorem isOrdered_ofCalls :
    (ofCalls table calls).isOrdered = true
      ↔ (∃ expr direction, .order expr direction ∈ calls)
        ∨ ∃ g column name, .bucketed g column name ∈ calls := by
  have hsorted : (ofCalls table calls).isOrdered = true ↔ sorted calls ≠ [] := by
    rw [← ordering_ofCalls table calls]
    unfold isOrdered
    simp
  have hbucket : ∀ c : Call, c.bucket? ≠ none ↔ ∃ g column name, c = .bucketed g column name := by
    intro c
    cases c <;> simp [Call.bucket?]
  have hkey : ∀ c : Call, c.sortKey? ≠ none ↔ ∃ expr direction, c = .order expr direction := by
    intro c
    cases c with
    | order expr direction => cases direction <;> simp [Call.sortKey?]
    | _ => simp [Call.sortKey?]
  rw [hsorted, sorted, ne_eq, List.append_eq_nil_iff, List.reverse_eq_nil_iff,
    List.filterMap_eq_nil_iff, List.filterMap_eq_nil_iff, not_and_or, or_comm]
  simp only [not_forall, exists_prop, hbucket, hkey]
  constructor
  · intro h
    rcases h with ⟨_, hc, expr, direction, rfl⟩ | ⟨_, hc, g, column, name, rfl⟩
    · exact .inl ⟨expr, direction, hc⟩
    · exact .inr ⟨g, column, name, hc⟩
  · intro h
    rcases h with ⟨expr, direction, hc⟩ | ⟨g, column, name, hc⟩
    · exact .inl ⟨_, hc, expr, direction, rfl⟩
    · exact .inr ⟨_, hc, g, column, name, rfl⟩

/-- What is added to one clause, at one end of it, comes in the same order
when calls change places: only one of them can add it. -/
theorem filterMap_swap {α : Type} (f : Call → Option α) (clause : Clause) (inFront : Bool)
    (hf : ∀ c, f c = none ∨ clause ∈ c.clauses ∧ c.isBucketed = inFront) {a b : Call}
    (h : a.MaySwap b) (before later : List Call) :
    (before ++ a :: b :: later).filterMap f = (before ++ b :: a :: later).filterMap f := by
  have hone : f a = none ∨ f b = none := by
    rcases hf a with ha | ⟨ha, hka⟩
    · exact .inl ha
    rcases hf b with hb | ⟨hb, hkb⟩
    · exact .inr hb
    rcases h with hapart | hkinds
    · exact absurd hb (hapart _ ha)
    · exact absurd (hka.trans hkb.symm) hkinds
  rw [List.filterMap_append, List.filterMap_append]
  rcases hone with hnone | hnone <;> simp [List.filterMap_cons, hnone]

-- ================================================================ text

/-- The text of the statement that calls make, from the calls alone. -/
theorem sql_ofCalls :
    (ofCalls table calls).sql
      = String.intercalate " "
        (["SELECT",
            if selected calls = [] then "*" else String.intercalate ", " (selected calls),
            "FROM", table]
          ++ clauseWords "WHERE" " AND " (calls.filterMap Call.predicate?)
          ++ clauseWords "GROUP BY" ", " (grouped calls)
          ++ clauseWords "ORDER BY" ", " (sorted calls)
          ++ limitWords (calls.filterMap Call.limit?).getLast?) := by
  have hlist : (ofCalls table calls).selectList
      = if selected calls = [] then "*" else String.intercalate ", " (selected calls) := by
    unfold selectList
    rw [projections_ofCalls]
    simp only [List.isEmpty_iff]
  rw [sql_eq_intercalate, hlist, table_ofCalls, predicates_ofCalls, grouping_ofCalls,
    ordering_ofCalls, limit_ofCalls]

/-- Two neighbouring calls that may change places leave the text as it is. -/
theorem sql_ofCalls_swap {a b : Call} (h : a.MaySwap b) (before later : List Call) :
    (ofCalls table (before ++ a :: b :: later)).sql
      = (ofCalls table (before ++ b :: a :: later)).sql := by
  have hlabels := filterMap_swap Call.label? .selection true
    (fun c => by cases c <;> simp [Call.label?, Call.clauses, Call.isBucketed]) h before later
  have hgrouped := filterMap_swap Call.bucket? .grouping true
    (fun c => by cases c <;> simp [Call.bucket?, Call.clauses, Call.isBucketed]) h before later
  have hitems := filterMap_swap Call.item? .selection false
    (fun c => by cases c <;> simp [Call.item?, Call.clauses, Call.isBucketed]) h before later
  have hpredicates := filterMap_swap Call.predicate? .condition false
    (fun c => by cases c <;> simp [Call.predicate?, Call.clauses, Call.isBucketed]) h before later
  have hkeys := filterMap_swap Call.key? .grouping false
    (fun c => by cases c <;> simp [Call.key?, Call.clauses, Call.isBucketed]) h before later
  have hsortKeys := filterMap_swap Call.sortKey? .ordering false
    (fun c => by
      cases c with
      | order expr direction => exact .inr ⟨List.mem_cons_self, rfl⟩
      | _ => exact .inl rfl) h before later
  have hlimits := filterMap_swap Call.limit? .limit false
    (fun c => by cases c <;> simp [Call.limit?, Call.clauses, Call.isBucketed]) h before later
  rw [sql_ofCalls, sql_ofCalls]
  unfold selected grouped sorted
  rw [hlabels, hgrouped, hitems, hpredicates, hkeys, hsortKeys, hlimits]

end Select

-- ============================================================= the law

/-- The statement that any calls on any table make.

It selects the labels of the buckets, the last first, and then the items in
order, or everything when there are none; and so on clause by clause, where
a clause without items is absent and only the last limit counts. So calls
that add to different clauses can change places, and so can a bucket and
any other call; and the statement is sorted just when a sort key or a
bucket was asked for. -/
theorem statement_is_told_by_clauses (table : String) (calls : List Call) :
    (Select.ofCalls table calls).sql
        = String.intercalate " "
          (["SELECT",
              if Select.selected calls = [] then "*"
              else String.intercalate ", " (Select.selected calls),
              "FROM", table]
            ++ Select.clauseWords "WHERE" " AND " (calls.filterMap Call.predicate?)
            ++ Select.clauseWords "GROUP BY" ", " (Select.grouped calls)
            ++ Select.clauseWords "ORDER BY" ", " (Select.sorted calls)
            ++ Select.limitWords (calls.filterMap Call.limit?).getLast?)
      ∧ ((Select.ofCalls table calls).isOrdered = true
        ↔ (∃ expr direction, .order expr direction ∈ calls)
          ∨ ∃ g column name, .bucketed g column name ∈ calls)
      ∧ ∀ before a b later, calls = before ++ a :: b :: later → a.MaySwap b →
        (Select.ofCalls table (before ++ b :: a :: later)).sql
          = (Select.ofCalls table calls).sql := by
  refine ⟨Select.sql_ofCalls table calls, Select.isOrdered_ofCalls table calls, ?_⟩
  intro before a b later hcalls hswap
  rw [hcalls, Select.sql_ofCalls_swap table hswap]

/-- Calls with two buckets, of which the second comes last of all, two sort
keys and two limits. -/
def weeklyCalls : List Call :=
  [.limitTo 5, .order "n" .descending, .bucketed .day "ts" "d", .project "type",
    .dimension "actor_id" "\"actor.id\"", .filter "ts IS NOT NULL", .filter "type = 't'",
    .order "type" .ascending, .limitTo 3, .bucketed .week "ts" "w"]

/-- The first bucket changes places with the item after it, and the statement
stays what it was: the second bucket leads it, and the second limit holds. -/
theorem weekly_calls_change_places :
    Call.MaySwap (.bucketed .day "ts" "d") (.project "type")
      ∧ (Select.ofCalls "events"
          ([.limitTo 5, .order "n" .descending] ++ .project "type" :: .bucketed .day "ts" "d"
            :: weeklyCalls.drop 4)).sql
        = "SELECT to_char(date_trunc('week', ts), 'YYYY-\"W\"WW') AS w, "
          ++ "to_char(date_trunc('day', ts), 'YYYY-MM-DD') AS d, type, actor_id AS \"actor.id\" "
          ++ "FROM events WHERE ts IS NOT NULL AND type = 't' GROUP BY w, d, actor_id "
          ++ "ORDER BY w, d, n DESC, type LIMIT 3" := by
  have hswap : Call.MaySwap (.bucketed .day "ts" "d") (.project "type") := .inr nofun
  obtain ⟨htext, -, hsame⟩ := statement_is_told_by_clauses "events" weeklyCalls
  refine ⟨hswap, (hsame _ _ _ _ rfl hswap).trans (htext.trans ?_)⟩
  decide +kernel

end EventAnalytics.Sql
