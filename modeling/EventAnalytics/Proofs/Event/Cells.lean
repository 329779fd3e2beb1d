/-
What is read from an arbitrary row.

A row need not come from an event: whatever texts can stand in a table, as
long as the columns that must be filled have one. `Cells` are such texts in
the order of the columns, and `Cells.Holds` says which event they hold,
each text in the field of its column. There is one exactly when the two times are timestamps
and the two contents are documents (`Cells.exists_holds_iff`), where an
optional text that is missing or empty asks for nothing.

The law is that an event is read from the row when the cells hold it
(`Cells.event_eq_ok_iff`), and that otherwise the first fault is told, of
the time, the time of intake, the context and the payload in this order
(`Cells.firstFault_of_event`).
-/
import EventAnalytics.Proofs.Event.Columns
import EventAnalytics.Proofs.Json.Documents
import EventAnalytics.Proofs.Outcome
import EventAnalytics.Proofs.Time.Timestamp

namespace EventAnalytics

open Json (IsDocument IsDocumentOf)
open Time (IsTimestamp IsTimestampOf)

-- ============================================================== texts

/-- The values of an optional document: without a text it is the empty
object. -/
def IsContentOf (text : Option String) (v : Json) : Prop :=
  match text with
  | none => v = Json.emptyObject
  | some s => IsDocumentOf s v

/-- A cell stands for some content when the text in it, if any, is a
document. -/
theorem exists_isContentOf_iff {text : Option String} :
    (∃ v, IsContentOf text v) ↔ ∀ s ∈ text, IsDocument s := by
  cases text with
  | none => exact iff_of_true ⟨Json.emptyObject, rfl⟩ nofun
  | some s => simp [IsContentOf, Json.isDocument_iff]

/-- A cell stands for a time or for none when the text in it, if any, is a
timestamp. -/
theorem exists_rel_isTimestampOf_iff {text : Option String} :
    (∃ t, Option.Rel IsTimestampOf text t) ↔ ∀ s ∈ text, IsTimestamp s := by
  cases text with
  | none => exact iff_of_true ⟨none, .none⟩ nofun
  | some s =>
    simp only [Option.mem_some_iff, forall_eq', Time.isTimestamp_iff]
    constructor
    · intro h
      obtain ⟨_, ht⟩ := h
      cases ht with
      | some ht => exact ⟨_, ht⟩
    · intro h
      obtain ⟨t, ht⟩ := h
      exact ⟨some t, .some ht⟩

namespace Row

variable {r : Row} {c : Column} {f : Fault}

/-- A time is read from the timestamps that stand for it. -/
theorem instant_eq_ok_iff {s : String} {t : Time.Instant} :
    instant s = .ok t ↔ IsTimestampOf s t := by
  rw [← Time.readStrict_eq_ok_iff]
  unfold instant
  cases Time.readStrict s <;> simp

/-- The fault of a text that is no timestamp names the text. -/
theorem of_instant_eq_error {s : String} (h : instant s = .error f) :
    ¬ IsTimestamp s ∧ ∃ reason, f = .time s reason := by
  constructor
  · rw [Time.isTimestamp_iff]
    intro hread
    obtain ⟨t, ht⟩ := hread
    cases h.symm.trans (instant_eq_ok_iff.2 ht)
  · unfold instant at h
    split at h
    · cases h
    · next reason _ =>
      cases h
      exact ⟨reason, rfl⟩

/-- A time that may be missing is read from such a timestamp, or from an
empty cell. -/
theorem instant?_eq_ok_iff {t : Option Time.Instant} :
    r.instant? c = .ok t ↔ Option.Rel IsTimestampOf (nonEmpty? (r c)) t := by
  unfold instant?
  rw [r.text?_eq]
  cases nonEmpty? (r c) with
  | none => cases t <;> simp
  | some s => cases t <;> cases h : instant s <;> simp [← instant_eq_ok_iff, h, Except.map]

theorem of_instant?_eq_error (h : r.instant? c = .error f) :
    ∃ s, nonEmpty? (r c) = some s ∧ ¬ IsTimestamp s ∧ ∃ reason, f = .time s reason := by
  unfold instant? at h
  rw [r.text?_eq] at h
  cases hs : nonEmpty? (r c) with
  | none =>
    rw [hs] at h
    cases h
  | some s =>
    rw [hs] at h
    exact ⟨s, rfl, of_instant_eq_error (map_eq_error h)⟩

theorem document_text_eq (r : Row) (c : Column) :
    document (r.text c) = match nonEmpty? (r c) with
      | none => .ok Json.emptyObject
      | some s => match Json.ofText? s with
        | some v => .ok v
        | none => .error .document := by
  unfold document text nonEmpty?
  cases r c with
  | none => rfl
  | some s =>
    by_cases hs : s = ""
    · simp [hs, Option.filter]
    · cases h : Json.ofText? s <;> simp [hs, h, Option.filter]

/-- A document is read from the cells whose content it is. -/
theorem document_eq_ok_iff {v : Json} :
    document (r.text c) = .ok v ↔ IsContentOf (nonEmpty? (r c)) v := by
  rw [document_text_eq]
  cases nonEmpty? (r c) with
  | none => exact ⟨fun h => (Except.ok.inj h).symm, fun h => congrArg Except.ok h.symm⟩
  | some s =>
    simp only [IsContentOf, ← Json.ofText?_eq_some_iff]
    cases Json.ofText? s <;> simp

/-- A cell that no content is read from has a text that is no document. -/
theorem of_document_eq_error (h : document (r.text c) = .error f) :
    f = .document ∧ ∃ s, nonEmpty? (r c) = some s ∧ ¬ IsDocument s := by
  have hnone : ∀ v, ¬ IsContentOf (nonEmpty? (r c)) v := by
    intro v hv
    cases h.symm.trans (document_eq_ok_iff.2 hv)
  rw [document_text_eq] at h
  cases hs : nonEmpty? (r c) with
  | none =>
    rw [hs] at h
    cases h
  | some s =>
    rw [hs] at h hnone
    refine ⟨?_, s, rfl, ?_⟩
    · simp only at h
      split at h
      · cases h
      · cases h
        rfl
    · rw [Json.isDocument_iff]
      exact fun hread => hread.elim hnone

end Row

-- =============================================================== cells

/-- The texts of a row in the order of the columns. -/
structure Cells where
  id : String
  schema : String
  type : String
  ts : String
  ingestTs : Option String
  runId : Option String
  product : Option String
  version : Option String
  actorType : Option String
  actorId : Option String
  actorName : Option String
  ctx : Option String
  payload : Option String

namespace Cells

variable {c : Cells} {e : Event} {f : Row.Fault}

/-- The row that is given by position. -/
def row (c : Cells) : Row :=
  Row.ofTexts [some c.id, some c.schema, some c.type, some c.ts, c.ingestTs, c.runId, c.product,
    c.version, c.actorType, c.actorId, c.actorName, c.ctx, c.payload]

/-- Every row with a text in each column that must have one is the row of
some cells. -/
theorem exists_row_eq {r : Row} (h : r.isComplete = true) : ∃ c : Cells, c.row = r := by
  have hsome : ∀ col : Column, col.nullable = false → ∃ s, r col = some s := by
    intro col hcol
    have hcol' := List.all_eq_true.1 h col (Column.mem_all col)
    rw [hcol, Bool.false_or] at hcol'
    exact Option.isSome_iff_exists.1 hcol'
  obtain ⟨id, hid⟩ := hsome .id rfl
  obtain ⟨schema, hschema⟩ := hsome .schema rfl
  obtain ⟨type, htype⟩ := hsome .type rfl
  obtain ⟨ts, hts⟩ := hsome .ts rfl
  refine ⟨⟨id, schema, type, ts, r .ingestTs, r .runId, r .product, r .version, r .actorType,
    r .actorId, r .actorName, r .ctx, r .payload⟩, ?_⟩
  funext col
  cases col with
  | id => exact hid.symm
  | schema => exact hschema.symm
  | type => exact htype.symm
  | ts => exact hts.symm
  | _ => rfl

/-- The events that cells hold. -/
structure Holds (c : Cells) (e : Event) : Prop where
  id : e.id = c.id
  schema : e.schema = c.schema
  type : e.type = c.type
  ts : IsTimestampOf c.ts e.ts
  ingestTs : Option.Rel IsTimestampOf (nonEmpty? c.ingestTs) e.ingestTs
  runId : e.runId = nonEmpty? c.runId
  source : e.source = ⟨nonEmpty? c.product, nonEmpty? c.version⟩
  actor : e.actor = ⟨nonEmpty? c.actorType, nonEmpty? c.actorId, nonEmpty? c.actorName⟩
  ctx : IsContentOf (nonEmpty? c.ctx) e.ctx
  payload : IsContentOf (nonEmpty? c.payload) e.payload

/-- Whether the times of cells are timestamps and their contents documents. -/
structure IsReadable (c : Cells) : Prop where
  ts : IsTimestamp c.ts
  ingestTs : ∀ s ∈ nonEmpty? c.ingestTs, IsTimestamp s
  ctx : ∀ s ∈ nonEmpty? c.ctx, IsDocument s
  payload : ∀ s ∈ nonEmpty? c.payload, IsDocument s

/-- Cells hold an event when they are readable. -/
theorem exists_holds_iff : (∃ e, c.Holds e) ↔ c.IsReadable := by
  constructor
  · intro h
    obtain ⟨e, h⟩ := h
    exact ⟨Time.isTimestamp_iff.2 ⟨_, h.ts⟩, exists_rel_isTimestampOf_iff.1 ⟨_, h.ingestTs⟩,
      exists_isContentOf_iff.1 ⟨_, h.ctx⟩, exists_isContentOf_iff.1 ⟨_, h.payload⟩⟩
  · intro h
    obtain ⟨ts, hts⟩ := Time.isTimestamp_iff.1 h.ts
    obtain ⟨ingestTs, hingest⟩ := exists_rel_isTimestampOf_iff.2 h.ingestTs
    obtain ⟨ctx, hctx⟩ := exists_isContentOf_iff.2 h.ctx
    obtain ⟨payload, hpayload⟩ := exists_isContentOf_iff.2 h.payload
    exact ⟨⟨c.id, c.schema, c.type, ts, ingestTs, _, _, _, ctx, payload⟩, rfl, rfl, rfl, hts,
      hingest, rfl, rfl, rfl, hctx, hpayload⟩

/-- What is wrong with cells that are not readable: the first text that is
not what it should be, which is named if it should be a time. -/
inductive FirstFault (c : Cells) : Row.Fault → Prop where
  | ts {reason : Time.ReadFault} (h : ¬ IsTimestamp c.ts) : FirstFault c (.time c.ts reason)
  | ingestTs {s : String} {reason : Time.ReadFault} (hts : IsTimestamp c.ts)
    (hs : nonEmpty? c.ingestTs = some s) (h : ¬ IsTimestamp s) : FirstFault c (.time s reason)
  | ctx {s : String} (hts : IsTimestamp c.ts) (hingest : ∀ s ∈ nonEmpty? c.ingestTs, IsTimestamp s)
    (hs : nonEmpty? c.ctx = some s) (h : ¬ IsDocument s) : FirstFault c .document
  | payload {s : String} (hts : IsTimestamp c.ts)
    (hingest : ∀ s ∈ nonEmpty? c.ingestTs, IsTimestamp s)
    (hctx : ∀ s ∈ nonEmpty? c.ctx, IsDocument s) (hs : nonEmpty? c.payload = some s)
    (h : ¬ IsDocument s) : FirstFault c .document

-- ============================================================= the law

/-- An event is read from the row of cells when they hold it. -/
theorem event_eq_ok_iff : c.row.event = .ok e ↔ c.Holds e := by
  rw [Row.event_eq]
  constructor
  · intro h
    obtain ⟨ts, hts, h₁⟩ := bind_eq_ok h
    obtain ⟨ingestTs, hingest, h₂⟩ := bind_eq_ok h₁
    obtain ⟨ctx, hctx, h₃⟩ := bind_eq_ok h₂
    obtain ⟨payload, hpayload, h₄⟩ := bind_eq_ok h₃
    cases h₄
    simp only [Row.text?_eq]
    exact ⟨rfl, rfl, rfl, Row.instant_eq_ok_iff.1 hts, Row.instant?_eq_ok_iff.1 hingest, rfl, rfl,
      rfl, Row.document_eq_ok_iff.1 hctx, Row.document_eq_ok_iff.1 hpayload⟩
  · intro h
    have hts : Row.instant (c.row.text .ts) = .ok e.ts := Row.instant_eq_ok_iff.2 h.ts
    have hingest : c.row.instant? .ingestTs = .ok e.ingestTs :=
      Row.instant?_eq_ok_iff.2 h.ingestTs
    have hctx : Row.document (c.row.text .ctx) = .ok e.ctx := Row.document_eq_ok_iff.2 h.ctx
    have hpayload : Row.document (c.row.text .payload) = .ok e.payload :=
      Row.document_eq_ok_iff.2 h.payload
    rw [hts, hingest, hctx, hpayload]
    simp only [Row.text?_eq]
    obtain ⟨id, schema, type, ts, ingestTs, runId, source, actor, ctx, payload⟩ := e
    obtain ⟨rfl, rfl, rfl, -, -, rfl, rfl, rfl, -, -⟩ := h
    rfl

/-- Otherwise the fault that is told is the first one. -/
theorem firstFault_of_event (h : c.row.event = .error f) : c.FirstFault f := by
  rw [Row.event_eq] at h
  rcases bind_eq_error h with hts | ⟨ts, hts, h₁⟩
  · obtain ⟨hnot, reason, rfl⟩ := Row.of_instant_eq_error hts
    exact .ts hnot
  have hts : IsTimestamp c.ts := Time.isTimestamp_iff.2 ⟨ts, Row.instant_eq_ok_iff.1 hts⟩
  rcases bind_eq_error h₁ with hingest | ⟨ingestTs, hingest, h₂⟩
  · obtain ⟨s, hs, hnot, reason, rfl⟩ := Row.of_instant?_eq_error hingest
    exact .ingestTs hts hs hnot
  have hingest : ∀ s ∈ nonEmpty? c.ingestTs, IsTimestamp s :=
    exists_rel_isTimestampOf_iff.1 ⟨ingestTs, Row.instant?_eq_ok_iff.1 hingest⟩
  rcases bind_eq_error h₂ with hctx | ⟨ctx, hctx, h₃⟩
  · obtain ⟨rfl, s, hs, hnot⟩ := Row.of_document_eq_error hctx
    exact .ctx hts hingest hs hnot
  have hctx : ∀ s ∈ nonEmpty? c.ctx, IsDocument s :=
    exists_isContentOf_iff.1 ⟨ctx, Row.document_eq_ok_iff.1 hctx⟩
  rcases bind_eq_error h₃ with hpayload | ⟨payload, hpayload, h₄⟩
  · obtain ⟨rfl, s, hs, hnot⟩ := Row.of_document_eq_error hpayload
    exact .payload hts hingest hctx hs hnot
  · cases h₄

/-- A row is read as an event when each of its cells is readable. -/
theorem isOk_event_iff : c.row.event.isOk = true ↔ c.IsReadable := by
  rw [← exists_holds_iff]
  simp only [← event_eq_ok_iff]
  cases c.row.event <;> simp [Except.isOk, Except.toBool]

/-- Whether cells are readable is found by reading them. -/
instance (c : Cells) : Decidable c.IsReadable := decidable_of_iff _ isOk_event_iff

end Cells

end EventAnalytics
