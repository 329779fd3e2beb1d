/-
Events in JSON text, and back.

An event's text is that of a record, the actor and the source being
records in it (`Event.jsonText_eq`), so reading it back comes down to
reading back each field as it was written: texts as they are, times in the
loose form, records by their own forms and documents as values. A field
that was left out is read as absent, and one that was not is never taken
for it: neither a text nor a record is written as `null`, and a document
that is `null` is no missing document, since documents are always written.

What can stand in the way is nesting alone (`Event.decode?_written`): a document
may be nested one less deep than the text that it stands in.
-/
import EventAnalytics.Event
import EventAnalytics.Proofs.Json.Records
import EventAnalytics.Proofs.Time.Literal

namespace EventAnalytics

open Json (Place written fieldTexts fieldTexts_append optionalText_eq optionalField_eq text_written
  record?_written fieldOr_optional fieldOr_optionalText depth_written_le_iff depth_le_of_string)
open Time (Instant)

-- ================================================== actors and sources

namespace Actor

def fields (a : Actor) : List (String × Option Json) :=
  [("type", a.type.map .string), ("id", a.id.map .string), ("name", a.name.map .string)]

theorem jsonText_eq (a : Actor) : a.jsonText = (written a.fields).text := by
  unfold jsonText
  rw [optionalText_eq, optionalText_eq, optionalText_eq, ← fieldTexts_append, ← fieldTexts_append,
    text_written]
  rfl

/-- An actor is read back from what is written of it. -/
theorem decode?_written (a : Actor) (room : Nat) :
    decode? ⟨room + 1, (written a.fields).node⟩ = some a := by
  have hnames : form.Names ["type", "id", "name"] := by decide
  unfold decode?
  rw [record?_written hnames]
  simp only [fields, List.map_cons, List.map_nil, fieldOr_optionalText]
  rfl

theorem depth_le (a : Actor) (room : Nat) : (written a.fields).depth ≤ room + 1 := by
  apply depth_written_le_iff.2
  intro f hf v hv
  simp only [fields, List.mem_cons, List.not_mem_nil, or_false] at hf
  rcases hf with rfl | rfl | rfl <;> exact depth_le_of_string hv room

end Actor

namespace Source

def fields (s : Source) : List (String × Option Json) :=
  [("product", s.product.map .string), ("version", s.version.map .string)]

theorem jsonText_eq (s : Source) : s.jsonText = (written s.fields).text := by
  unfold jsonText
  rw [optionalText_eq, optionalText_eq, ← fieldTexts_append, text_written]
  rfl

/-- A source is read back from what is written of it. -/
theorem decode?_written (s : Source) (room : Nat) :
    decode? ⟨room + 1, (written s.fields).node⟩ = some s := by
  have hnames : form.Names ["product", "version"] := by decide
  unfold decode?
  rw [record?_written hnames]
  simp only [fields, List.map_cons, List.map_nil, fieldOr_optionalText]
  rfl

theorem depth_le (s : Source) (room : Nat) : (written s.fields).depth ≤ room + 1 := by
  apply depth_written_le_iff.2
  intro f hf v hv
  simp only [fields, List.mem_cons, List.not_mem_nil, or_false] at hf
  rcases hf with rfl | rfl <;> exact depth_le_of_string hv room

end Source

-- ============================================================== events

/-- A time as it is written in JSON. -/
def writtenInstant (t : Instant) : Json := .string t.zuluText

/-- Every time is read back, whatever its year. -/
theorem decodeInstant?_written (room : Nat) (t : Instant) :
    decodeInstant? ⟨room, (writtenInstant t).node⟩ = some t := by
  have htext : Place.text? ⟨room, (writtenInstant t).node⟩ = some t.zuluText := rfl
  unfold decodeInstant?
  rw [htext, Option.bind_some, Time.readLoose_zuluText]
  rfl

namespace Event

def fields (e : Event) : List (String × Option Json) :=
  [("id", some (.string e.id)), ("schema", some (.string e.schema)),
    ("type", some (.string e.type)), ("ts", some (writtenInstant e.ts)),
    ("ingestTs", e.ingestTs.map writtenInstant), ("runId", e.runId.map .string),
    ("source", some (written e.source.fields)), ("actor", some (written e.actor.fields)),
    ("ctx", some e.ctx), ("payload", some e.payload)]

theorem jsonText_eq (e : Event) : e.jsonText = (written e.fields).text := by
  have hts : Json.optionalText "ingestTs" (e.ingestTs.map Instant.zuluText)
      = fieldTexts [("ingestTs", e.ingestTs.map writtenInstant)] := by
    rw [optionalText_eq, Option.map_map]
    rfl
  have hsplit : fieldTexts e.fields
      = fieldTexts (e.fields.take 4) ++ fieldTexts [("ingestTs", e.ingestTs.map writtenInstant)]
        ++ fieldTexts [("runId", e.runId.map Json.string)] ++ fieldTexts (e.fields.drop 6) := by
    rw [← fieldTexts_append, ← fieldTexts_append, ← fieldTexts_append]
    rfl
  unfold jsonText
  rw [hts, optionalText_eq, e.source.jsonText_eq, e.actor.jsonText_eq, text_written e.fields,
    hsplit]
  rfl

/-- How many containers of an event's text stand inside each other. -/
def nesting (e : Event) : Nat := (written e.fields).depth

/-- Only the documents of an event can be nested deeply. -/
theorem nesting_le_iff {e : Event} {room : Nat} :
    e.nesting ≤ room + 1 + 1 ↔ e.ctx.depth ≤ room + 1 ∧ e.payload.depth ≤ room + 1 := by
  unfold nesting
  rw [depth_written_le_iff]
  constructor
  · intro h
    exact ⟨h ("ctx", some e.ctx) (by simp [fields]) _ rfl,
      h ("payload", some e.payload) (by simp [fields]) _ rfl⟩
  · rintro ⟨hctx, hpayload⟩
    have hsome : ∀ {v : Json}, v.depth ≤ room + 1 → ∀ w ∈ some v, w.depth ≤ room + 1 :=
      fun h w hw => Option.some.inj hw ▸ h
    have hingest : ∀ v ∈ e.ingestTs.map writtenInstant, v.depth ≤ room + 1 := by
      intro v hv
      obtain ⟨t, -, rfl⟩ := Option.map_eq_some_iff.1 hv
      exact Nat.zero_le _
    have hrun : ∀ v ∈ e.runId.map Json.string, v.depth ≤ room + 1 :=
      fun v hv => depth_le_of_string hv _
    simp only [fields, List.forall_mem_cons]
    exact ⟨hsome (Nat.zero_le _), hsome (Nat.zero_le _), hsome (Nat.zero_le _),
      hsome (Nat.zero_le _), hingest, hrun, hsome (e.source.depth_le room),
      hsome (e.actor.depth_le room), hsome hctx, hsome hpayload, List.forall_mem_nil _⟩

/-- Reading the fields of an event gives the event when there is room for
its documents, and nothing otherwise. -/
theorem decode?_written {e : Event} (hctx : e.ctx.IsExact) (hpayload : e.payload.IsExact)
    (room : Nat) :
    decode? ⟨room + 1 + 1, (written e.fields).node⟩
      = if e.nesting ≤ room + 1 + 1 then some e else none := by
  -- Each field is read back as it was written; only the two documents need
  -- room.
  have hnames : form.Names ["id", "schema", "type", "ts", "ingestTs", "runId", "source", "actor",
    "ctx", "payload"] := by decide
  have hingest : Json.fieldOr none (Place.optional? decodeInstant?)
      ((e.ingestTs.map writtenInstant).map fun v => ⟨room + 1, v.node⟩) = some e.ingestTs :=
    @fieldOr_optional _ _ writtenInstant (fun _ h => nomatch h) _ _
      fun t _ => decodeInstant?_written (room + 1) t
  have hrequired : ∀ s : String,
      Json.required Place.text? (some ⟨room + 1, (Json.string s).node⟩) = some s := fun _ => rfl
  have hschema : Json.fieldOr schemaTag Place.text?
      (some ⟨room + 1, (Json.string e.schema).node⟩) = some e.schema := rfl
  have hts : Json.required decodeInstant? (some ⟨room + 1, (writtenInstant e.ts).node⟩)
      = some e.ts := decodeInstant?_written (room + 1) e.ts
  have hsource : Json.fieldOr {} Source.decode? (some ⟨room + 1, (written e.source.fields).node⟩)
      = some e.source := e.source.decode?_written room
  have hactor : Json.fieldOr {} Actor.decode? (some ⟨room + 1, (written e.actor.fields).node⟩)
      = some e.actor := e.actor.decode?_written room
  have hdocument : ∀ {v : Json}, v.IsExact →
      Json.fieldOr Json.emptyObject Place.value? (some ⟨room + 1, v.node⟩)
        = if v.depth ≤ room + 1 then some v else none :=
    fun h => Json.value?_node h (room + 1)
  unfold decode?
  rw [record?_written hnames]
  simp only [fields, List.map_cons, List.map_nil, Option.map_some, fieldOr_optionalText,
    hingest, hrequired, hschema, hts, hsource, hactor, hdocument hctx, hdocument hpayload,
    Option.bind_eq_bind, Option.bind_some, Option.pure_def, nesting_le_iff]
  -- The documents decide, the context first.
  by_cases hc : e.ctx.depth ≤ room + 1
  · by_cases hp : e.payload.depth ≤ room + 1
    · simp only [hc, hp, if_true, and_self, Option.bind_some]
    · simp only [hc, hp, if_true, if_false, and_false, Option.bind_some, Option.bind_none]
  · simp only [hc, if_false, false_and, Option.bind_none]

end Event

-- ============================================================= the law

/-- An event whose documents are exact comes back from its text as it was,
unless the text is nested too deeply to be read at all. Hence no two such
events share a text: what is absent, `null` or empty in one of them and
something else in the other tells their texts apart. -/
theorem event_comes_back_from_its_text {e : Event} (hctx : e.ctx.IsExact)
    (hpayload : e.payload.IsExact) :
    Event.ofText? e.jsonText = (if e.nesting ≤ Json.maxDepth then some e else none)
      ∧ ∀ e' : Event, e'.ctx.IsExact → e'.payload.IsExact → e.nesting ≤ Json.maxDepth →
        e'.jsonText = e.jsonText → e' = e := by
  have hread : ∀ {e : Event}, e.ctx.IsExact → e.payload.IsExact →
      Event.ofText? e.jsonText = if e.nesting ≤ Json.maxDepth then some e else none := by
    intro e hctx hpayload
    unfold Event.ofText?
    rw [e.jsonText_eq, Json.decodeText_text]
    exact Event.decode?_written hctx hpayload 125
  refine ⟨hread hctx hpayload, ?_⟩
  intro e' hctx' hpayload' hnesting hsame
  have hthis := hread hctx hpayload
  rw [if_pos hnesting, ← hsame, hread hctx' hpayload'] at hthis
  split at hthis
  · exact Option.some.inj hthis
  · cases hthis

/-- An event from a leap second of the year 10000, taken in at the first
second of the calendar, with empty texts and with a context that is
`null`. -/
def leapEvent : Event where
  id := "\"\\\x01\u2028"
  schema := ""
  type := "t"
  ts := ⟨253433923199, 1500000000, by decide, by decide, by decide, by decide⟩
  ingestTs := some ⟨Time.firstSecond, 1, by decide, by decide, by decide, by decide⟩
  runId := some ""
  source := ⟨none, some ""⟩
  ctx := .null
  payload := .object [("", .integer (-0x8000000000000000)),
    ("a", .array [.object [], .array [], .integer 0xffffffffffffffff])]

/-- It comes back with all of this. -/
theorem leap_event_comes_back :
    leapEvent.ctx.IsExact ∧ leapEvent.payload.IsExact ∧ leapEvent.nesting ≤ Json.maxDepth
      ∧ Event.ofText? leapEvent.jsonText = some leapEvent := by
  have hctx : leapEvent.ctx.IsExact := trivial
  have hpayload : leapEvent.payload.IsExact := by
    have hsmall : (Json.integer (-0x8000000000000000)).IsExact := by
      rw [Json.IsExact]
      decide
    have hlarge : (Json.integer 0xffffffffffffffff).IsExact := by
      rw [Json.IsExact]
      decide
    have hempty : (Json.array []).IsExact ∧ (Json.object []).IsExact :=
      ⟨trivial, trivial, List.Pairwise.nil⟩
    exact ⟨⟨hsmall, ⟨hempty.2, hempty.1, hlarge, trivial⟩, trivial⟩, by
      unfold Json.Increasing
      decide⟩
  have hnesting : leapEvent.nesting ≤ Json.maxDepth := by decide
  refine ⟨hctx, hpayload, hnesting, ?_⟩
  rw [(event_comes_back_from_its_text hctx hpayload).1, if_pos hnesting]

end EventAnalytics
