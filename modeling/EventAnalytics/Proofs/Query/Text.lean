/-
Queries in JSON text, and back.

A query's text is that of a record whose conditions are records in it
(`Query.jsonText_eq`). Two of its parts are told apart by their shape and
nothing else. An operand is `null`, a text or a list, and a type filter is
a text or a list; the shapes never meet, so each is read as what it was
(`Operand.decode?_written`, `TypeFilter.decode?_written`).

A list that is empty is left out where a missing list reads as an empty
one (`writtenList`), and written where a missing list means something
else: asking for no metrics is not leaving the choice open.
-/
import EventAnalytics.Query.Compile
import EventAnalytics.Proofs.Json.Records

namespace EventAnalytics

open Json (Place written fieldTexts fieldTexts_append listText_eq optionalField_eq optionalText_eq
  text_written textsText_eq record?_written fieldOr_optional fieldOr_optionalText list?_array
  text?_string texts?_array)
open Time (Instant)

-- ============================================ operands and type filters

/-- An operand as a value. -/
def Operand.written : Operand → Json
  | absent => .null
  | single s => .string s
  | list ss => .array (ss.map .string)

theorem Operand.jsonText_eq (v : Operand) : v.jsonText = v.written.text := by
  cases v with
  | absent => rfl
  | single s => rfl
  | list ss => exact textsText_eq ss

/-- An operand is read back from what is written of it. -/
theorem Operand.decode?_written (room : Nat) (v : Operand) :
    decode? ⟨room + 1, v.written.node⟩ = some v := by
  cases v with
  | absent => rfl
  | single s => rfl
  | list ss =>
    show (Place.texts? ⟨room + 1, (Json.array (ss.map Json.string)).node⟩).map Operand.list = _
    rw [texts?_array]
    rfl

/-- A type filter as a value. -/
def TypeFilter.written : TypeFilter → Json
  | one t => .string t
  | anyOf ts => .array (ts.map .string)

theorem TypeFilter.jsonText_eq (f : TypeFilter) : f.jsonText = f.written.text := by
  cases f with
  | one t => rfl
  | anyOf ts => exact textsText_eq ts

/-- A type filter is read back from what is written of it. -/
theorem TypeFilter.decode?_written (room : Nat) (f : TypeFilter) :
    decode? ⟨room + 1, f.written.node⟩ = some f := by
  cases f with
  | one t => rfl
  | anyOf ts =>
    show (Place.texts? ⟨room + 1, (Json.array (ts.map Json.string)).node⟩).map TypeFilter.anyOf = _
    rw [texts?_array]
    rfl

/-- A type filter is never written as nothing. -/
theorem TypeFilter.node_written_ne_null (f : TypeFilter) : f.written.node ≠ .null := by
  cases f <;> exact fun h => nomatch h

-- ========================================================== conditions

namespace Condition

def fields (c : Condition) : List (String × Option Json) :=
  [("field", some (.string c.field)), ("operator", some (.string c.operator.name)),
    ("value", some c.value.written)]

theorem jsonText_eq (c : Condition) : c.jsonText = (written c.fields).text := by
  unfold jsonText
  rw [c.value.jsonText_eq, text_written]
  rfl

/-- A condition is read back from what is written of it. -/
theorem decode?_written (room : Nat) (c : Condition) :
    decode? ⟨room + 1 + 1, (written c.fields).node⟩ = some c := by
  have hnames : form.Names ["field", "operator", "value"] := by decide
  have hfield : Json.required Place.text? (some ⟨room + 1, (Json.string c.field).node⟩)
      = some c.field := rfl
  have hoperator : Json.required Operator.decode?
      (some ⟨room + 1, (Json.string c.operator.name).node⟩) = some c.operator :=
    c.operator.ofName?_name
  have hvalue : Json.fieldOr .absent Operand.decode? (some ⟨room + 1, c.value.written.node⟩)
      = some c.value := c.value.decode?_written room
  unfold decode?
  rw [record?_written hnames]
  simp only [fields, List.map_cons, List.map_nil, Option.map_some, hfield, hoperator, hvalue]
  rfl

end Condition

-- =============================================================== lists

/-- A list as the value of a field, if there is anything in it. -/
def writtenList {α : Type} (write : α → Json) (as : List α) : Option Json :=
  if as.isEmpty then none else some (.array (as.map write))

/-- A list that is left out when it is empty is a field that may be
missing. -/
theorem listField_eq {α : Type} {shown : α → String} {write : α → Json}
    (h : ∀ a, shown a = (write a).text) (name : String) (as : List α) :
    Query.listField name (as.map shown) = fieldTexts [(name, writtenList write as)] := by
  cases as with
  | nil => rfl
  | cons a as =>
    have hmap : (a :: as).map shown = ((a :: as).map write).map Json.text := by
      rw [List.map_map]
      exact List.map_congr_left fun b _ => h b
    show [(name, Json.listText ((a :: as).map shown))] = _
    rw [hmap, listText_eq]
    rfl

/-- A list comes back, whether it was written or left out. -/
theorem fieldOr_list {α : Type} {decode : Place → Option α} {write : α → Json} {room : Nat}
    (hread : ∀ a, decode ⟨room, (write a).node⟩ = some a) (as : List α) :
    Json.fieldOr [] (Place.list? decode)
      ((writtenList write as).map fun v => ⟨room + 1, v.node⟩) = some as := by
  cases as with
  | nil => rfl
  | cons a as => exact list?_array hread (a :: as)

-- ============================================================= queries

namespace Query

/-- A limit as a value. -/
def writtenLimit (n : Nat) : Json := .integer n

/-- A limit is read back from the number that is written of it. -/
theorem natural?_writtenLimit {n : Nat} (h : n ≤ maxWrittenLimit) (room : Nat) :
    Place.natural? maxWrittenLimit ⟨room, (writtenLimit n).node⟩ = some n := by
  have hmost : (n : Int) ≤ maxWrittenLimit := Int.ofNat_le.2 h
  have hvalue : (Json.Numeral.ofInt n).value? = some (.integer n) := by
    refine Json.value?_ofInt ⟨by omega, ?_⟩
    unfold maxWrittenLimit at hmost
    unfold Json.maxSignificand
    omega
  have hnode : (writtenLimit n).node = .number (Json.Numeral.ofInt n) := rfl
  unfold Place.natural?
  simp only [hnode, hvalue]
  exact if_pos ⟨Int.natCast_nonneg n, hmost⟩

/-- A list of names as a value. -/
def writtenNames (names : List String) : Json := .array (names.map .string)

def fields (q : Query) : List (String × Option Json) :=
  [("types", q.types.map TypeFilter.written), ("timeRange", q.timeRange.map .string),
    ("filters", writtenList (fun c => written c.fields) q.filters),
    ("groupBy", q.groupBy.map .string), ("breakdownBy", writtenList .string q.breakdownBy),
    ("metrics", q.metrics.map writtenNames),
    ("limit", q.limit.map writtenLimit)]

theorem jsonText_eq (q : Query) : q.jsonText = (written q.fields).text := by
  have hmetrics : Json.optionalField "metrics" Json.textsText q.metrics
      = fieldTexts [("metrics", q.metrics.map writtenNames)] := optionalField_eq textsText_eq _ _
  have hlimit : Json.optionalField "limit" (fun n : Nat => (Json.integer n).text) q.limit
      = fieldTexts [("limit", q.limit.map writtenLimit)] := optionalField_eq (fun _ => rfl) _ _
  unfold jsonText
  rw [optionalField_eq TypeFilter.jsonText_eq, optionalText_eq, optionalText_eq,
    listField_eq Condition.jsonText_eq, listField_eq (fun _ => rfl), hmetrics, hlimit,
    text_written]
  simp only [← fieldTexts_append]
  rfl

/-- Reading the fields of a query gives the query. -/
theorem decode?_written {q : Query} (h : ∀ n ∈ q.limit, n ≤ maxWrittenLimit) (room : Nat) :
    decode? ⟨room + 1 + 1 + 1 + 1, (written q.fields).node⟩ = some q := by
  have hnames : form.Names ["types", "timeRange", "filters", "groupBy", "breakdownBy", "metrics",
    "limit"] := by decide
  have htypes := @fieldOr_optional _ _ _ TypeFilter.node_written_ne_null (room + 1 + 1 + 1) q.types
    fun f _ => f.decode?_written (room + 1 + 1)
  have hfilters := fieldOr_list (Condition.decode?_written room) q.filters
  have hbreakdown := fieldOr_list (text?_string (room + 1 + 1)) q.breakdownBy
  have hmetrics := @fieldOr_optional _ Place.texts? writtenNames (fun _ h => nomatch h)
    (room + 1 + 1 + 1) q.metrics fun ss _ => texts?_array (room + 1 + 1) ss
  have hlimit := @fieldOr_optional _ _ writtenLimit (fun _ h => nomatch h) (room + 1 + 1 + 1)
    q.limit fun n hn => natural?_writtenLimit (h n hn) _
  unfold decode?
  rw [record?_written hnames]
  simp only [fields, List.map_cons, List.map_nil, fieldOr_optionalText, htypes, hfilters, hmetrics,
    hlimit]
  show (Json.fieldOr [] (Place.list? Place.text?) _).bind _ = _
  rw [hbreakdown]
  rfl

end Query

-- ============================================================= the law

/-- A query comes back from its text as it was, whatever is absent, empty
or a single text in it. Hence no two queries share a text, and reading a
query back changes nothing about what it compiles to. -/
theorem query_comes_back_from_its_text {q : Query} (h : ∀ n ∈ q.limit, n ≤ Query.maxWrittenLimit) :
    Query.ofText? q.jsonText = some q
      ∧ (∀ q' : Query, (∀ n ∈ q'.limit, n ≤ Query.maxWrittenLimit) →
        q'.jsonText = q.jsonText → q' = q)
      ∧ ∀ (c : Compiler) (now : Instant),
        (Query.ofText? q.jsonText).map (c.compile · now) = some (c.compile q now) := by
  have hread : ∀ {q : Query}, (∀ n ∈ q.limit, n ≤ Query.maxWrittenLimit) →
      Query.ofText? q.jsonText = some q := by
    intro q h
    unfold Query.ofText?
    rw [q.jsonText_eq, Json.decodeText_text]
    exact Query.decode?_written h 123
  refine ⟨hread h, ?_, fun c now => ?_⟩
  · intro q' h' hsame
    exact Option.some.inj ((hread h').symm.trans (hsame ▸ hread h))
  · rw [hread h]
    rfl

/-- A query with the largest limit, whose types and metrics are empty lists
and whose conditions have an operand of every shape. -/
def hollowQuery : Query where
  types := some (.anyOf [])
  timeRange := some "\"\\\x01\u2028"
  filters := [⟨"", .isSet, .absent⟩, ⟨"id", .notContains, .single "null"⟩,
    ⟨"ctx", .isIn, .list []⟩]
  breakdownBy := [""]
  metrics := some []
  limit := some 4294967295

theorem hollow_query_comes_back :
    (∀ n ∈ hollowQuery.limit, n ≤ Query.maxWrittenLimit)
      ∧ Query.ofText? hollowQuery.jsonText = some hollowQuery := by
  have h : ∀ n ∈ hollowQuery.limit, n ≤ Query.maxWrittenLimit := by decide
  exact ⟨h, (query_comes_back_from_its_text h).1⟩

end EventAnalytics
