/-
Reading an event's row through the expressions for paths.

`Event.lookup` says what a dot-path means to an event itself, without any
column or pointer: a few names lead to its texts and to parts of its actor
and source, `payload` and `ctx` lead into its documents, and every other
name leads into the payload. `Row.read?` is what a database makes of an
expression: the text of a column, or what is reached in it, taken for
JSON, by following the keys of a pointer.

`path_reads_the_event` says that the two agree for the row that is
stored. Half of it is about names (`valueAt_ofPointer`), where resolution has
to send every path to the right place; the other half is about writing,
where the pointer and the document have to come back as they were
(`pointerKeys?_pointerText`, `row_document`).
-/
import EventAnalytics.Proofs.Path.Expression
import EventAnalytics.Proofs.Store.Fidelity

namespace EventAnalytics

open Sql

-- ============================================================ pointers

/-- The value that is reached by following keys through objects. -/
def Json.follow? : Json → List String → Option Json
  | v, [] => some v
  | v, k :: ks => (v.field? k).bind fun w => w.follow? ks

/-- The keys that a pointer names below the root. -/
def pointerKeys? (s : String) : Option (List String) :=
  match Text.parts '.' s with
  | root :: keys => if root = "$" then some keys else none
  | [] => none

/-- A pointer is read back as its segments. -/
theorem pointerKeys?_pointerText {segments : List String}
    (h : ∀ s ∈ segments, isSafeSegment s = true) :
    pointerKeys? (pointerText segments) = some segments := by
  have hparts : Text.parts '.' (pointerText segments) = "$" :: segments :=
    Pointer.parts_text ⟨segments, List.all_eq_true.2 h⟩
  unfold pointerKeys?
  rw [hparts]
  exact if_pos rfl

-- ============================================================= reading

/-- What an expression reads of a row. -/
inductive Found where
  | null
  | text (s : String)
  | json (v : Json)

/-- A text, or nothing. -/
def Found.ofText : Option String → Found
  | some s => text s
  | none => null

/-- A value in a document, or nothing. -/
def Found.ofJson : Option Json → Found
  | some v => json v
  | none => null

/-- What an expression reads of a row, unless there is no such column, the
pointer is none or the column's text is no JSON. -/
def Row.read? (r : Row) : Reference → Option Found
  | .column name => (Column.named? name).map fun c => .ofText (r c)
  | .extraction name place =>
    match Column.named? name, pointerKeys? place with
    | some c, some keys =>
      match r c with
      | none => some .null
      | some s => (Json.ofText? s).map fun v => .ofJson (v.follow? keys)
    | _, _ => none

namespace Event

/-- What the segments of a path mean to an event. -/
def lookup (e : Event) : List String → Found
  | "type" :: _ => .text e.type
  | "runId" :: _ | "run_id" :: _ => .ofText (nonEmpty? e.runId)
  | "product" :: _ | "source" :: "product" :: _ => .ofText (nonEmpty? e.source.product)
  | "version" :: _ | "source" :: "version" :: _ => .ofText (nonEmpty? e.source.version)
  | "actor" :: "type" :: _ => .ofText (nonEmpty? e.actor.type)
  | "actor" :: "id" :: _ => .ofText (nonEmpty? e.actor.id)
  | "actor" :: "name" :: _ => .ofText (nonEmpty? e.actor.name)
  | "payload" :: keys => .ofJson (e.payload.follow? keys)
  | "ctx" :: keys => .ofJson (e.ctx.follow? keys)
  | keys => .ofJson (e.payload.follow? keys)

/-- The document of an event. -/
def document (e : Event) : Document → Json
  | .payload => e.payload
  | .ctx => e.ctx

/-- What an event has in a place that a path leads to. -/
def valueAt (e : Event) : FieldRef → Found
  | .direct c | .actor c | .source c => .ofText (e.row c)
  | .inside d p => .ofJson ((e.document d).follow? p.segments)
  | .fallback p => .ofJson (e.payload.follow? p.segments)

-- =============================================================== names

/-- A row leaves the empty texts of an event out. -/
theorem row_of_nullable (e : Event) {c : Column} (h : c.nullable = true) :
    e.row c = nonEmpty? (e.column c) := by
  rw [row_column]
  unfold nonEmpty?
  cases e.column c with
  | none => simp
  | some s => by_cases hs : s = "" <;> simp [h, hs, Option.filter]

/-- What is read of a column that may be empty. -/
theorem ofText_row (e : Event) (c : Column) (h : c.nullable = true) :
    Found.ofText (nonEmpty? (e.column c)) = .ofText (e.row c) := by
  rw [e.row_of_nullable h]

variable (e : Event) {root : String} {rest : List String}

theorem lookup_of_rootColumn {c : Column} (h : FieldRef.rootColumn? root = some c) :
    e.lookup (root :: rest) = .ofText (e.row c) := by
  unfold FieldRef.rootColumn? at h
  split at h
  all_goals cases h
  · exact e.ofText_row .product rfl
  · exact e.ofText_row .version rfl
  · have htype : e.row .type = some e.type := by simp [row_column, column, Column.nullable]
    exact (congrArg Found.ofText htype).symm
  · exact e.ofText_row .runId rfl
  · exact e.ofText_row .runId rfl

theorem lookup_of_nested {f : FieldRef} (h : FieldRef.nested? root rest.head? = some f) :
    e.lookup (root :: rest) = e.valueAt f := by
  cases rest with
  | nil =>
    unfold FieldRef.nested? at h
    split at h
    · next heq => cases heq
    · next heq => cases heq
    · cases h
  | cons child rest =>
    rw [List.head?_cons] at h
    unfold FieldRef.nested? at h
    -- The two flattened records, the actor and the source.
    split at h
    · next heq =>
      cases heq
      obtain ⟨c, hc, rfl⟩ := Option.map_eq_some_iff.1 h
      unfold FieldRef.actorColumn? at hc
      split at hc
      all_goals cases hc
      · exact e.ofText_row .actorType rfl
      · exact e.ofText_row .actorId rfl
      · exact e.ofText_row .actorName rfl
    · next heq =>
      cases heq
      obtain ⟨c, hc, rfl⟩ := Option.map_eq_some_iff.1 h
      unfold FieldRef.sourceColumn? at hc
      split at hc
      all_goals cases hc
      · exact e.ofText_row .product rfl
      · exact e.ofText_row .version rfl
    · cases h

theorem lookup_of_rootDocument {d : Document} (h : FieldRef.rootDocument? root = some d) :
    e.lookup (root :: rest) = .ofJson ((e.document d).follow? rest) := by
  unfold FieldRef.rootDocument? at h
  split at h
  all_goals cases h
  · rfl
  · rfl

/-- A name that is none of the event's own leads into the payload. -/
theorem lookup_of_other (hcolumn : FieldRef.rootColumn? root = none)
    (hnested : FieldRef.nested? root rest.head? = none)
    (hdocument : FieldRef.rootDocument? root = none) :
    e.lookup (root :: rest) = .ofJson (e.payload.follow? (root :: rest)) := by
  unfold lookup
  split
  -- every other case has a root that the tables of names know
  case h_13 => rfl
  all_goals
    rename_i heq
    obtain ⟨rfl, rfl⟩ := List.cons.inj heq
  case h_1 | h_2 | h_3 | h_4 | h_6 => cases hcolumn
  case h_5 | h_7 | h_8 | h_9 | h_10 => cases hnested
  case h_11 | h_12 => cases hdocument

/-- A path leads to what its segments mean. -/
theorem valueAt_ofPointer {p : Pointer} (hp : p.segments = root :: rest) :
    e.valueAt (FieldRef.ofPointer p) = e.lookup p.segments := by
  have htail : p.tail.segments = rest := congrArg List.tail hp
  have hroot : p.segments.headD "" = root := congrArg (List.headD · "") hp
  unfold FieldRef.ofPointer
  simp only [hroot, htail]
  rw [hp]
  cases hcolumn : FieldRef.rootColumn? root with
  | some c => exact (e.lookup_of_rootColumn hcolumn).symm
  | none =>
    cases hnested : FieldRef.nested? root rest.head? with
    | some f => exact (e.lookup_of_nested hnested).symm
    | none =>
      cases hdocument : FieldRef.rootDocument? root with
      | some d =>
        rw [e.lookup_of_rootDocument hdocument, ← htail]
        rfl
      | none =>
        rw [e.lookup_of_other hcolumn hnested hdocument, ← hp]
        rfl

-- =============================================================== rows

/-- A row holds the text of each document, and where all numbers are
integers the document is read from it again. -/
theorem row_document {text : String} {e : Event} (htext : ofText? text = some e)
    (hctx : e.ctx.onlyIntegers = true) (hpayload : e.payload.onlyIntegers = true)
    (d : Document) :
    e.row d.column = some (e.document d).text
      ∧ Json.ofText? (e.document d).text = some (e.document d) := by
  obtain ⟨hkept, hkept'⟩ := isKept_of_ofText? htext
  have hread : Json.ofText? (e.document d).text = some (e.document d) := by
    cases d with
    | payload =>
      obtain ⟨w, hw, hsame⟩ := Json.ofText?_of_isKept hkept'
      rw [hsame hpayload] at hw
      exact hw
    | ctx =>
      obtain ⟨w, hw, hsame⟩ := Json.ofText?_of_isKept hkept
      rw [hsame hctx] at hw
      exact hw
  have hne := (document_text hread).1
  refine ⟨?_, hread⟩
  rw [row_column]
  cases d <;> exact if_neg fun h => hne (Option.some.inj h.2)

/-- The expression for a field reads of the row what the event has in the
field's place. -/
theorem read?_reference {text : String} {e : Event} (htext : ofText? text = some e)
    (hctx : e.ctx.onlyIntegers = true) (hpayload : e.payload.onlyIntegers = true)
    (f : FieldRef) : e.row.read? f.reference = some (e.valueAt f) := by
  have hinside : ∀ (d : Document) (p : Pointer),
      e.row.read? (.extraction d.column.name p.text)
        = some (.ofJson ((e.document d).follow? p.segments)) := by
    intro d p
    obtain ⟨hrow, hread⟩ := row_document htext hctx hpayload d
    have hkeys : pointerKeys? p.text = some p.segments :=
      pointerKeys?_pointerText (List.all_eq_true.1 p.safe)
    simp only [Row.read?, Column.named?_name, hkeys, hrow, hread, Option.map_some]
  have hplain : ∀ c : Column, e.row.read? (.column c.name) = some (.ofText (e.row c)) := by
    intro c
    simp only [Row.read?, Column.named?_name, Option.map_some]
  cases f with
  | direct c => exact hplain c
  | actor c => exact hplain c
  | source c => exact hplain c
  | inside d p => exact hinside d p
  | fallback p => exact hinside .payload p

end Event

-- ============================================================= the law

/-- The row that is stored for a decoded event with integers for numbers is
read, through the expression for a path, as what the path means to the
event.

The row stands behind those that were there, whatever was done with the
store before. An empty text and a missing one are both read as nothing. -/
theorem path_reads_the_event (d : Database) (t : TableName) (ops : List Operation)
    {e : Event} {s' : Store} (he : e.IsDecoded) (hctx : e.ctx.onlyIntegers = true)
    (hpayload : e.payload.onlyIntegers = true)
    (happend : ((Store.openOn d t).after ops).append e = (.ok (), s')) :
    ∃ r : Row, s'.current.rows t.key = ((Store.openOn d t).after ops).current.rows t.key ++ [r]
      ∧ ∀ path expr, pathSql path = .ok expr →
        ∃ ref, Reference.ofText? expr = some ref
          ∧ r.read? ref = some (e.lookup (pathSegments path)) := by
  obtain ⟨text, htext⟩ := he.text
  have hcoherent := Store.isCoherent_after (Store.isCoherent_openOn d t) ops
  have htable : ((Store.openOn d t).after ops).table = t :=
    ((Store.openOn d t).isGrownTo_after ops).1
  obtain ⟨-, -, -, hrows, -⟩ := Store.append_eq_ok hcoherent happend
  rw [htable] at hrows
  refine ⟨e.row, hrows, ?_⟩
  intro path expr hexpr
  rcases FieldRef.pathSql_cases path with ⟨s, -, herror⟩ | ⟨-, f, hpath, -⟩
  · rw [herror] at hexpr
    cases hexpr
  · refine ⟨f.reference, Reference.ofText?_path hpath hexpr, ?_⟩
    obtain ⟨p, hp, rfl⟩ := FieldRef.exists_pointer_of_ofPath hpath
    rw [Event.read?_reference htext hctx hpayload]
    cases hsegments : p.segments with
    | nil =>
      rw [hp] at hsegments
      exact absurd (List.map_eq_nil_iff.1 hsegments) (Text.splitAt_ne_nil '.' path.toList)
    | cons root rest => rw [e.valueAt_ofPointer hsegments, hp]

/-- An event with an empty name for its actor and a payload of two levels. -/
def usageText : String :=
  "\x7b\"id\":\"a\",\"type\":\"t\",\"ts\":\"2024-05-01T09:30:00Z\",\"actor\":\x7b\"name\":\"\"\x7d,"
    ++ "\"payload\":\x7b\"usage\":\x7b\"total\":7\x7d\x7d\x7d"

/-- Whether an event has 7 for its total usage and no name for its actor,
and can be added to an empty table. -/
def isUsage (e : Event) : Bool :=
  !e.ctx.isNumber && !e.payload.isNumber && (e.ctx.onlyIntegers && e.payload.onlyIntegers)
    && decide (((Store.openOn {} ⟨"events", "events"⟩).append e).1 = .ok ())
    && (match e.lookup ["payload", "usage", "total"], e.lookup ["actor", "name"] with
      | .json (.integer 7), .null => true
      | _, _ => false)

/-- The total is read by following two keys, and the empty name as
nothing. -/
theorem total_is_read_and_empty_name_is_not :
    ∃ e s' r, Event.ofText? usageText = some e
      ∧ (Store.openOn {} ⟨"events", "events"⟩).append e = (.ok (), s')
      ∧ s'.current.rows "events" = [r]
      ∧ (∃ ref, Reference.ofText? "json_extract_string(payload, '$.usage.total')" = some ref
        ∧ r.read? ref = some (.json (.integer 7)))
      ∧ ∃ ref, Reference.ofText? "actor_name" = some ref ∧ r.read? ref = some .null := by
  have hcheck : (Event.ofText? usageText).any isUsage = true := by decide +kernel
  obtain ⟨e, htext, husage⟩ := (Option.any_eq_true _ _).1 hcheck
  simp only [isUsage, Bool.and_eq_true, Bool.not_eq_true', decide_eq_true_eq] at husage
  obtain ⟨⟨⟨⟨hctx, hpayload⟩, hints⟩, happend⟩, hfound⟩ := husage
  have hdecoded : e.IsDecoded := ⟨⟨usageText, htext⟩, hctx, hpayload⟩
  obtain ⟨r, hrows, hread⟩ := path_reads_the_event {} ⟨"events", "events"⟩ [] hdecoded
    hints.1 hints.2 (Prod.ext happend rfl)
  refine ⟨e, _, r, htext, Prod.ext happend rfl, hrows, ?_⟩
  split at hfound
  · next htotal hname =>
    have hsegments : pathSegments "payload.usage.total" = ["payload", "usage", "total"]
        ∧ pathSegments "actor.name" = ["actor", "name"] := by decide
    have htotalSql : pathSql "payload.usage.total"
        = .ok "json_extract_string(payload, '$.usage.total')" := by decide +kernel
    have hnameSql : pathSql "actor.name" = .ok "actor_name" := by decide +kernel
    obtain ⟨ref, href, htotal'⟩ := hread _ _ htotalSql
    obtain ⟨ref', href', hname'⟩ := hread _ _ hnameSql
    rw [hsegments.1, htotal] at htotal'
    rw [hsegments.2, hname] at hname'
    exact ⟨⟨ref, href, htotal'⟩, ref', href', hname'⟩
  · cases hfound

end EventAnalytics
