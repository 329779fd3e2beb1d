/-
Where the value of a dot-path is stored.

A path reads a column of its own when its root names one, when it starts
with `actor` or `source` and a flattened part of theirs, and a document
otherwise: the one that the root names, or the payload for a root that
means nothing else. The cases are tried in this order, the first that
applies wins, and segments beyond the ones that decided it are ignored.
All segments are checked before any of it.
-/
import EventAnalytics.Path
import EventAnalytics.Schema.Column

namespace EventAnalytics

/-- A JSON document of an event. -/
inductive Document where
  | payload
  | ctx
  deriving DecidableEq, Repr

/-- The column that holds the document. -/
def Document.column : Document → Column
  | .payload => .payload
  | .ctx => .ctx

/-- The place that a path refers to. -/
inductive FieldRef where
  /-- A column that the root of the path names. -/
  | direct (column : Column)
  /-- A column that holds part of the actor. -/
  | actor (column : Column)
  /-- A column that holds part of the source. -/
  | source (column : Column)
  /-- A place inside the document that the root of the path names. -/
  | inside (document : Document) (pointer : Pointer)
  /-- A place inside the payload, under the whole path. -/
  | fallback (pointer : Pointer)

namespace FieldRef

/-- The column that a root names, by its own name or another spelling. -/
def rootColumn? : String → Option Column
  | "product" => some .product
  | "version" => some .version
  | "type" => some .type
  | "run_id" => some .runId
  | "runId" => some .runId
  | _ => none

/-- The column of a part of the actor. -/
def actorColumn? : String → Option Column
  | "type" => some .actorType
  | "id" => some .actorId
  | "name" => some .actorName
  | _ => none

/-- The column of a part of the source. -/
def sourceColumn? : String → Option Column
  | "product" => some .product
  | "version" => some .version
  | _ => none

/-- The document that a root names. -/
def rootDocument? : String → Option Document
  | "payload" => some .payload
  | "ctx" => some .ctx
  | _ => none

/-- The flattened column that a root and its child name together. -/
def nested? (root : String) (child : Option String) : Option FieldRef :=
  match root, child with
  | "actor", some c => (actorColumn? c).map actor
  | "source", some c => (sourceColumn? c).map source
  | _, _ => none

/-- The place that a list of safe segments refers to. -/
def ofPointer (p : Pointer) : FieldRef :=
  let root := p.segments.headD ""
  match rootColumn? root with
  | some c => direct c
  | none =>
    match nested? root p.tail.segments.head? with
    | some f => f
    | none =>
      match rootDocument? root with
      | some d => inside d p.tail
      | none => fallback p

/-- The place that a dot-path refers to. -/
def ofPath (path : String) : Except UnsafeSegment FieldRef :=
  (Pointer.along path (pathSegments path)).map ofPointer

/-- The column, when the value has one of its own. -/
def column? : FieldRef → Option Column
  | direct c | actor c | source c => some c
  | inside _ _ | fallback _ => none

/-- The expression that reads a place inside a document. -/
def extraction (d : Document) (p : Pointer) : String :=
  "json_extract_string(" ++ d.column.name ++ ", '" ++ p.text ++ "')"

/-- The SQL expression that reads the value. -/
def sql : FieldRef → String
  | direct c | actor c | source c => c.name
  | inside d p => extraction d p
  | fallback p => extraction .payload p

end FieldRef

/-- The SQL expression for a dot-path. -/
def pathSql (path : String) : Except UnsafeSegment String :=
  (FieldRef.ofPath path).map FieldRef.sql

end EventAnalytics
