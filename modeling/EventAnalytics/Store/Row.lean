/-
Events as rows of the event table, and back.

A row gives each column a text or nothing. An event goes into its row by
the placeholders of the insertion: its texts are bound in the order of the
columns, an empty text for one that is missing, and an empty text is left
out where it may be.

The way back is by position: a row is selected as the list of its texts,
in the order of the columns, and an event is decoded by taking one text
after the other. It can fail, since a row need not come from an event. The
time, the time of intake, the context and the payload are decoded in this
order, and the first that is not what it should be is the fault of the
row. A missing or empty document is the empty object.

Rows hold every text as it was bound. The columns for times and documents
have numeric affinity, so that the database itself keeps a text that spells
a number as the number. That is left out here: no time is spelled like a
number, and of the documents only a number is.
-/
import EventAnalytics.Event
import EventAnalytics.Store.Statement
import EventAnalytics.Text.Quoted

namespace EventAnalytics

/-- A row of the event table. -/
abbrev Row := Column → Option String

namespace Row

/-- A column's text, which is empty where there is none. -/
def text (r : Row) (c : Column) : String := (r c).getD ""

/-- The texts of a row as a selection reads them, in the order of the columns. -/
def values (r : Row) : List String := Column.all.map r.text

/-- Whether every column has a text that must have one. -/
def isComplete (r : Row) : Bool :=
  Column.all.all fun c => c.nullable || (r c).isSome

/-- The row with the given texts, in the order of the columns. -/
def ofTexts (texts : List (Option String)) : Row := fun c =>
  ((Column.all.zip texts).find? fun p => p.1 == c).bind Prod.snd

/-- The row that an insertion adds, once texts are bound. -/
def inserted (texts : List String) : Row :=
  ofTexts (Placeholder.all.map (Placeholder.value texts))

/-- What is wrong with a row that no event can be read from. -/
inductive Fault where
  /-- A time that cannot be read. -/
  | time (text : String) (fault : Time.ReadFault)
  /-- A document that is no JSON. -/
  | document
  deriving DecidableEq, Repr

/-- The instant written in a text. -/
def instant (s : String) : Except Fault Time.Instant :=
  match Time.readStrict s with
  | .ok t => .ok t
  | .error f => .error (.time s f)

/-- The document written in a text; none written is the empty object. -/
def document (s : String) : Except Fault Json :=
  if s = "" then .ok Json.emptyObject
  else match Json.ofText? s with
    | some v => .ok v
    | none => .error .document

end Row

-- ============================================================ decoding

/-- Takes texts from the front of a list. -/
abbrev Decoder := StateT (List String) (Except Row.Fault)

namespace Decoder

/-- The next text, which is empty where there is none. -/
def next : Decoder String :=
  modifyGet fun values => (values.headD "", values.tail)

/-- The next text, unless it is empty. -/
def optional : Decoder (Option String) := do
  let s ← next
  return if s = "" then none else some s

def instant : Decoder Time.Instant := do
  Row.instant (← next)

def optionalInstant : Decoder (Option Time.Instant) := do
  match ← optional with
  | none => return none
  | some s => return some (← Row.instant s)

def document : Decoder Json := do
  Row.document (← next)

def event : Decoder Event := do
  let id ← next
  let schema ← next
  let type ← next
  let ts ← instant
  let ingestTs ← optionalInstant
  let runId ← optional
  let product ← optional
  let version ← optional
  let actorType ← optional
  let actorId ← optional
  let actorName ← optional
  let ctx ← document
  let payload ← document
  return {
    id, schema, type, ts, ingestTs, runId
    source := ⟨product, version⟩
    actor := ⟨actorType, actorId, actorName⟩
    ctx, payload }

end Decoder

/-- The event that a row holds. -/
def Row.event (r : Row) : Except Row.Fault Event :=
  Decoder.event.run' r.values

/-- The row that an event is stored as. -/
def Event.row (e : Event) : Row :=
  Row.inserted (e.columns.map fun text => text.getD "")

-- ============================================================== laws

/-- Texts in the order of the columns are a row of them. -/
theorem Row.ofTexts_map (f : Column → Option String) : ofTexts (Column.all.map f) = f := by
  funext c
  cases c <;> rfl

/-- Only a column that may be left empty is left empty by an event. -/
theorem Event.isSome_column (e : Event) {c : Column} (h : c.nullable = false) :
    (e.column c).isSome = true := by
  cases c <;> first | rfl | cases h

/-- A column of an event's row holds the event's own text, but no empty one
where the column may be left empty. -/
theorem Event.row_column (e : Event) (c : Column) :
    e.row c = if c.nullable ∧ e.column c = some "" then none else e.column c := by
  have htexts : e.columns.map (fun text => text.getD "")
      = Column.all.map fun c => (e.column c).getD "" := List.map_map
  unfold row Row.inserted
  rw [htexts, Placeholder.map_value, Row.ofTexts_map]
  cases hnullable : c.nullable with
  | true => cases htext : e.column c with
    | none => rfl
    | some s => by_cases hs : s = "" <;> simp [hs]
  | false =>
    obtain ⟨s, hs⟩ := Option.isSome_iff_exists.1 (e.isSome_column hnullable)
    simp [hs]

/-- An event gives a text to every column that must have one. -/
theorem Event.isComplete_row (e : Event) : e.row.isComplete = true := by
  simp [Row.isComplete, Column.all, Event.row_column, Event.column, Column.nullable]

/-- An event's row is filed under the event's identity. -/
theorem Event.row_id (e : Event) : e.row .id = some e.id := by
  simp [Event.row_column, Event.column, Column.nullable]

end EventAnalytics
