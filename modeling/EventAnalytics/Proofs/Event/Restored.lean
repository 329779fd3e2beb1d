/-
Events as they come back from their rows.

An event whose times have years of four digits comes back from its row
with each empty optional text turned into a missing one and nothing else
changed, apart from what its documents lose in writing
(`event_row`). Going through the row again changes no more, since the
event that came back has the same row (`row_restored`). An event with any
other year does not come back at all, and its first such time says why.
-/
import EventAnalytics.Proofs.Event.Columns
import EventAnalytics.Proofs.Json.Kept
import EventAnalytics.Proofs.Time.Reading

namespace EventAnalytics

open Time (Instant hasFourDigits)

namespace Event

/-- The event with every empty optional text left out. -/
def restored (e : Event) : Event :=
  { e with
    runId := nonEmpty? e.runId
    source := ⟨nonEmpty? e.source.product, nonEmpty? e.source.version⟩
    actor := ⟨nonEmpty? e.actor.type, nonEmpty? e.actor.id, nonEmpty? e.actor.name⟩ }

/-- The first time of the event that is not written with a year of four
digits. -/
def oddTime? (e : Event) : Option Instant :=
  if hasFourDigits e.ts.date.year then
    e.ingestTs.filter fun t => !hasFourDigits t.date.year
  else some e.ts

theorem missing?_restored (e : Event) : e.restored.missing? = e.missing? := rfl

-- =============================================================== rows

/-- A column that may be left empty gives the event's own text, if it is not
empty. -/
theorem text?_row (e : Event) {c : Column} (h : c.nullable = true) :
    e.row.text? c = nonEmpty? (e.column c) := by
  rw [Row.text?_eq, row_column]
  unfold nonEmpty?
  cases hc : e.column c with
  | none => simp
  | some s => by_cases hs : s = "" <;> simp [h, hs, Option.filter]

/-- A column that must have a text gives the event's own. -/
theorem text_row (e : Event) {c : Column} (h : c.nullable = false) {s : String}
    (hc : e.column c = some s) : e.row.text c = s := by
  unfold Row.text
  simp [row_column, h, hc]

/-- A text that is not empty is given back by every column. -/
theorem text_row_of_ne (e : Event) {c : Column} {s : String} (hc : e.column c = some s)
    (hs : s ≠ "") : e.row.text c = s := by
  unfold Row.text
  simp [row_column, hc, hs]

/-- An event that came back has the row that it came from. -/
theorem row_restored (e : Event) : e.restored.row = e.row := by
  have hsame : ∀ s : Option String,
      (if nonEmpty? s = some "" then none else nonEmpty? s) = if s = some "" then none else s := by
    intro s
    unfold nonEmpty?
    cases s with
    | none => rfl
    | some t => by_cases ht : t = "" <;> simp [ht, Option.filter]
  funext c
  rw [row_column, row_column]
  cases c <;> simp [column, restored, Column.nullable, hsame]

-- ============================================================== times

theorem offsetText_ne_empty (t : Instant) : t.offsetText ≠ "" := by
  intro h
  have hchars : t.localChars ++ "+00:00".toList = [] := by
    rw [← String.toList_ofList (l := t.localChars ++ _)]
    exact congrArg String.toList h
  rw [List.append_eq_nil_iff] at hchars
  exact absurd hchars.2 (by decide)

/-- A time is read back from a row when its year has four digits. -/
theorem instant_offsetText (t : Instant) :
    Row.instant t.offsetText
      = if hasFourDigits t.date.year then .ok t else .error (.time t.offsetText .invalid) := by
  unfold Row.instant
  rw [Time.readStrict_offsetText]
  cases hasFourDigits t.date.year <;> rfl

theorem instant?_row (e : Event) :
    e.row.instant? .ingestTs
      = (e.ingestTs.filter fun t => !hasFourDigits t.date.year).elim (.ok e.ingestTs)
        fun t => .error (.time t.offsetText .invalid) := by
  have hstored : e.column .ingestTs = e.ingestTs.map Instant.offsetText := rfl
  unfold Row.instant?
  rw [e.text?_row rfl, hstored]
  cases e.ingestTs with
  | none => rfl
  | some t =>
    have hne : nonEmpty? (some t.offsetText) = some t.offsetText := by
      unfold nonEmpty?
      simp [offsetText_ne_empty, Option.filter]
    rw [Option.map_some, hne]
    simp only [instant_offsetText]
    cases ht : hasFourDigits t.date.year <;> simp [ht, Option.filter, Except.map]

-- ========================================================== documents

/-- A document that can be read back is read from the row that it was put
into. -/
theorem document_text {v w : Json} (h : Json.ofText? v.text = some w) :
    v.text ≠ "" ∧ Row.document v.text = .ok w := by
  have hne : v.text ≠ "" := by
    intro hempty
    have hnone : Json.ofText? "" = none := by decide +kernel
    rw [hempty, hnone] at h
    cases h
  refine ⟨hne, ?_⟩
  unfold Row.document
  rw [if_neg hne, h]

/-- What the row of an event holds, given what its documents are read as. -/
theorem event_row (e : Event) {c p : Json} (hc : Json.ofText? e.ctx.text = some c)
    (hp : Json.ofText? e.payload.text = some p) :
    e.row.event = match e.oddTime? with
      | some t => .error (.time t.offsetText .invalid)
      | none => .ok { e.restored with ctx := c, payload := p } := by
  obtain ⟨hctx, hctx'⟩ := document_text hc
  obtain ⟨hpayload, hpayload'⟩ := document_text hp
  have hid : e.row.text .id = e.id := e.text_row rfl rfl
  have hschema : e.row.text .schema = e.schema := e.text_row rfl rfl
  have htype : e.row.text .type = e.type := e.text_row rfl rfl
  have hts : e.row.text .ts = e.ts.offsetText := e.text_row rfl rfl
  have hc' : e.row.text .ctx = e.ctx.text := e.text_row_of_ne rfl hctx
  have hp' : e.row.text .payload = e.payload.text := e.text_row_of_ne rfl hpayload
  rw [Row.event_eq]
  unfold oddTime?
  rw [hid, hschema, htype, hts, hc', hp', hctx', hpayload', e.instant?_row, instant_offsetText]
  cases hasFourDigits e.ts.date.year with
  | false => rfl
  | true =>
    cases e.ingestTs.filter fun t => !hasFourDigits t.date.year with
    | some t => rfl
    | none =>
      rw [e.text?_row rfl, e.text?_row rfl, e.text?_row rfl, e.text?_row rfl, e.text?_row rfl,
        e.text?_row rfl]
      rfl

-- ============================================================ decoding

/-- Every place in a record has less room than the record. -/
theorem room_of_record? {form : Json.RecordForm} {p q : Json.Place}
    {places : List (Option Json.Place)} (h : p.record? form = some places) (hq : some q ∈ places) :
    q.room < p.room := by
  unfold Json.Place.record? at h
  split at h
  · next r fields hroom hnode =>
    split at h
    · obtain ⟨ns, _, rfl⟩ := Option.map_eq_some_iff.1 h
      obtain ⟨n, _, hn⟩ := List.mem_map.1 hq
      obtain ⟨m, _, rfl⟩ := Option.map_eq_some_iff.1 hn
      show r < p.room
      omega
    · cases h
  · next r items hroom hnode =>
    split at h
    · cases h
      rcases List.mem_append.1 hq with hq | hq
      · obtain ⟨m, _, hm⟩ := List.mem_map.1 hq
        cases hm
        show r < p.room
        omega
      · cases List.eq_of_mem_replicate hq
    · cases h
  · cases h

/-- The documents of a decoded event were kept. -/
theorem isKept_of_ofText? {text : String} {e : Event} (h : ofText? text = some e) :
    e.ctx.IsKept Json.maxDepth ∧ e.payload.IsKept Json.maxDepth := by
  obtain ⟨n, _, hdecode⟩ := Option.bind_eq_some_iff.1 h
  unfold decode? at hdecode
  split at hdecode
  · next id schema type ts ingestTs runId source actor ctx payload hplaces =>
    have hdocument : ∀ {q : Option Json.Place} {v : Json},
        q ∈ [id, schema, type, ts, ingestTs, runId, source, actor, ctx, payload] →
        Json.fieldOr Json.emptyObject Json.Place.value? q = some v → v.IsKept Json.maxDepth := by
      intro q v hq hv
      cases q with
      | none =>
        cases hv
        exact ⟨126, rfl, trivial, List.Pairwise.nil⟩
      | some q =>
        have hroom := room_of_record? hplaces hq
        exact (Json.isKept_of_value? hv).mono (Nat.le_of_lt hroom)
    simp only [Option.bind_eq_bind, Option.bind_eq_some_iff, Option.pure_def,
      Option.some.injEq] at hdecode
    obtain ⟨_, -, _, -, _, -, _, -, _, -, _, -, _, -, _, -, c, hc, p, hp, rfl⟩ := hdecode
    exact ⟨hdocument (by simp) hc, hdocument (by simp) hp⟩
  · cases hdecode

/-- What the row of a decoded event holds: its documents are read as some
documents, which are the same where all numbers are integers. -/
theorem event_row_of_ofText? {text : String} {e : Event} (h : ofText? text = some e) :
    ∃ c p, (e.ctx.onlyIntegers = true → c = e.ctx) ∧ (e.payload.onlyIntegers = true → p = e.payload)
      ∧ e.row.event = match e.oddTime? with
        | some t => .error (.time t.offsetText .invalid)
        | none => .ok { e.restored with ctx := c, payload := p } := by
  obtain ⟨hctx, hpayload⟩ := isKept_of_ofText? h
  obtain ⟨c, hc, hsame⟩ := Json.ofText?_of_isKept hctx
  obtain ⟨p, hp, hsame'⟩ := Json.ofText?_of_isKept hpayload
  exact ⟨c, p, hsame, hsame', e.event_row hc hp⟩

/-- No time is odd when all years have four digits. -/
theorem oddTime?_eq_none_iff {e : Event} :
    e.oddTime? = none ↔ hasFourDigits e.ts.date.year = true
      ∧ ∀ t ∈ e.ingestTs, hasFourDigits t.date.year = true := by
  unfold oddTime?
  cases hasFourDigits e.ts.date.year with
  | false => exact iff_of_false nofun (fun h => Bool.false_ne_true h.1)
  | true =>
    cases e.ingestTs with
    | none => simp
    | some t => simp [Option.filter]

end Event

end EventAnalytics
