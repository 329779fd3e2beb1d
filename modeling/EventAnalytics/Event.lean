/-
Events, the immutable records that the event table holds.

An event has an identity, a type and a time, and may say who produced it,
from which product, in which run and when it was taken in. Two JSON
documents go with it: its context and its payload, where the metrics
live. An event is valid when its identity and its type are more than
blank.

As JSON the actor and the source are nested records; as a row they are
flattened into columns of their own. A row gives each column a text or
nothing. An event's row names universal time by a numeric offset, its
JSON text by `Z`.
-/
import EventAnalytics.Json.Layout
import EventAnalytics.Json.Record
import EventAnalytics.Schema.Ddl
import EventAnalytics.Text.Blank
import EventAnalytics.Time.Reader
import EventAnalytics.Time.Written

namespace EventAnalytics

open Json (Place)
open Time (Instant)

structure Actor where
  type : Option String := none
  id : Option String := none
  name : Option String := none
  deriving DecidableEq, Repr

/-- Which build of which product an event came from. -/
structure Source where
  product : Option String := none
  version : Option String := none
  deriving DecidableEq, Repr

/-- An event. -/
structure Event where
  id : String
  schema : String := schemaTag
  type : String
  ts : Instant
  ingestTs : Option Instant := none
  runId : Option String := none
  source : Source := {}
  actor : Actor := {}
  ctx : Json := Json.emptyObject
  payload : Json := Json.emptyObject

-- ============================================================== JSON

namespace Actor

/-- An actor's fields in JSON. -/
def form : Json.RecordForm := ⟨[["type"], ["id"], ["name"]], false⟩

def decode? (p : Place) : Option Actor :=
  match p.record? form with
  | some [type, id, name] => do
    let type ← Json.fieldOr none (Place.optional? Place.text?) type
    let id ← Json.fieldOr none (Place.optional? Place.text?) id
    let name ← Json.fieldOr none (Place.optional? Place.text?) name
    return ⟨type, id, name⟩
  | _ => none

def jsonText (a : Actor) : String :=
  Json.recordText <|
    Json.optionalText "type" a.type ++ Json.optionalText "id" a.id
      ++ Json.optionalText "name" a.name

end Actor

namespace Source

/-- A source's fields in JSON. -/
def form : Json.RecordForm := ⟨[["product"], ["version"]], false⟩

def decode? (p : Place) : Option Source :=
  match p.record? form with
  | some [product, version] => do
    let product ← Json.fieldOr none (Place.optional? Place.text?) product
    let version ← Json.fieldOr none (Place.optional? Place.text?) version
    return ⟨product, version⟩
  | _ => none

def jsonText (s : Source) : String :=
  Json.recordText <|
    Json.optionalText "product" s.product ++ Json.optionalText "version" s.version

end Source

/-- A time in JSON, in the loose form. -/
def decodeInstant? (p : Place) : Option Instant :=
  p.text?.bind fun s => (Time.readLoose s).toOption

namespace Event

def form : Json.RecordForm :=
  ⟨[["id"], ["schema"], ["type"], ["ts"], ["ingestTs"], ["runId"], ["source"],
    ["actor"], ["ctx"], ["payload"]], false⟩

def decode? (p : Place) : Option Event :=
  match p.record? form with
  | some [id, schema, type, ts, ingestTs, runId, source, actor, ctx, payload] => do
    let id ← Json.required Place.text? id
    let schema ← Json.fieldOr schemaTag Place.text? schema
    let type ← Json.required Place.text? type
    let ts ← Json.required decodeInstant? ts
    let ingestTs ← Json.fieldOr none (Place.optional? decodeInstant?) ingestTs
    let runId ← Json.fieldOr none (Place.optional? Place.text?) runId
    let source ← Json.fieldOr {} Source.decode? source
    let actor ← Json.fieldOr {} Actor.decode? actor
    let ctx ← Json.fieldOr Json.emptyObject Place.value? ctx
    let payload ← Json.fieldOr Json.emptyObject Place.value? payload
    return { id, schema, type, ts, ingestTs, runId, source, actor, ctx, payload }
  | _ => none

/-- The event that a JSON text stands for. -/
def ofText? (s : String) : Option Event :=
  Json.decodeText decode? s

def jsonText (e : Event) : String :=
  let text (s : String) := (Json.string s).text
  Json.recordText <|
    [("id", text e.id), ("schema", text e.schema), ("type", text e.type),
      ("ts", text e.ts.zuluText)]
    ++ Json.optionalText "ingestTs" (e.ingestTs.map Instant.zuluText)
    ++ Json.optionalText "runId" e.runId
    ++ [("source", e.source.jsonText), ("actor", e.actor.jsonText),
      ("ctx", e.ctx.text), ("payload", e.payload.text)]

-- ========================================================== validity

/-- A field that an event cannot do without. -/
inductive RequiredField where
  | id
  | type
  deriving DecidableEq, Repr

def RequiredField.name : RequiredField → String
  | .id => "id"
  | .type => "type"

/-- The report of a required field that is blank. -/
def RequiredField.message (f : RequiredField) : String :=
  "missing required field: " ++ f.name

/-- The first required field that is blank. -/
def missing? (e : Event) : Option RequiredField :=
  if Text.isBlankText e.id then some .id
  else if Text.isBlankText e.type then some .type
  else none

-- ============================================================== rows

/-- The text that the event puts into a column. -/
def column (e : Event) : Column → Option String
  | .id => some e.id
  | .schema => some e.schema
  | .type => some e.type
  | .ts => some e.ts.offsetText
  | .ingestTs => e.ingestTs.map Instant.offsetText
  | .runId => e.runId
  | .product => e.source.product
  | .version => e.source.version
  | .actorType => e.actor.type
  | .actorId => e.actor.id
  | .actorName => e.actor.name
  | .ctx => some e.ctx.text
  | .payload => some e.payload.text

/-- The event's column texts, in declaration order. -/
def columns (e : Event) : List (Option String) :=
  Column.all.map e.column

end Event

end EventAnalytics
