/-
The event store: an event table in a database, open for use.

Events are only ever added. An event that is not valid, or whose identity
is taken, is refused and leaves no trace. Creating the schema again
changes nothing.

Reading and writing see the database through snapshots. A count, a test
for an identity and an event that was found leave their reading unfinished
and so keep their snapshot for as long as the store stays open; there is
room for a few. Reading uses the current state while that is kept already
or can still be kept, and otherwise the newest snapshot there is. Writing
is refused when it would start from a state that is no longer current.
Opening the store anew gives all the room back.
-/
import EventAnalytics.Store.Database

namespace EventAnalytics

structure Store where
  table : Sql.TableName
  /-- The state that the last write left. -/
  current : Database
  /-- The snapshots that are kept, the newest first. -/
  kept : List Database := []
  /-- Whether the newest snapshot kept is the current state. -/
  keepsCurrent : Bool := false

/-- Why an operation on the store fails. -/
inductive StoreError where
  /-- The database refuses. -/
  | database
  | invalid (field : Event.RequiredField)
  | taken (id : String)
  /-- The row found cannot be read as an event. -/
  | faulty (id : String) (fault : Row.Fault)
  deriving DecidableEq, Repr

/-- The failure in words, for those that have words of their own. -/
def StoreError.message? : StoreError → Option String
  | .database => none
  | .invalid f => some ("invalid event: " ++ f.message)
  | .taken id => some ("event already exists: " ++ id)
  | .faulty id (.time s f) =>
    some ("corrupt row for event " ++ id ++ ": bad timestamp " ++ Text.quoted s
      ++ ": " ++ f.message)
  | .faulty _ .document => none

namespace Store

-- ========================================================== snapshots

/-- The number of snapshots that can be kept. -/
def room : Nat := 4

/-- Whether reading sees the current state. -/
def seesCurrent (s : Store) : Bool :=
  s.keepsCurrent || s.kept.length < room

def view (s : Store) : Database :=
  if s.seesCurrent then s.current else s.kept.headD s.current

/-- Keeps the snapshot that reading sees. -/
def keep (s : Store) : Store :=
  if s.keepsCurrent || room ≤ s.kept.length then s
  else { s with kept := s.current :: s.kept, keepsCurrent := true }

/-- Makes a new state the current one. -/
def commit (s : Store) (d : Database) : Store :=
  { s with current := d, keepsCurrent := false }

-- ============================================================ reading

def rows (s : Store) : List Row := s.view.rows s.table.key

def count (s : Store) : Nat × Store := (s.rows.length, s.keep)

/-- Whether there is an event with a given identity. -/
def contains (s : Store) (id : String) : Bool × Store :=
  ((s.view.row? s.table.key id).isSome, s.keep)

/-- The event with a given identity. -/
def get (s : Store) (id : String) : Except StoreError (Option Event) × Store :=
  match s.view.row? s.table.key id with
  | none => (.ok none, s)
  | some r =>
    match r.event with
    | .ok e => (.ok (some e), s.keep)
    | .error f => (.error (.faulty id f), s.keep)

def objects (s : Store) : List SchemaObject := s.view.objects s.table

-- ============================================================ writing

/-- Adds a row to the event table. -/
def insert (s : Store) (r : Row) : Except StoreError Unit × Store :=
  if s.seesCurrent then
    match s.current.insert? s.table.key r with
    | some d => (.ok (), s.commit d)
    | none => (.error .database, s)
  else (.error .database, s)

def append (s : Store) (e : Event) : Except StoreError Unit × Store :=
  match e.missing? with
  | some f => (.error (.invalid f), s)
  | none =>
    match s.contains e.id with
    | (true, s) => (.error (.taken e.id), s)
    | (false, s) => s.insert e.row

/-- Adds events up to the first that is refused, and counts them. -/
def appendAll (s : Store) : List Event → Except StoreError Nat × Store
  | [] => (.ok 0, s)
  | e :: es =>
    match s.append e with
    | (.error err, s) => (.error err, s)
    | (.ok (), s) =>
      match s.appendAll es with
      | (.error err, s) => (.error err, s)
      | (.ok n, s) => (.ok (n + 1), s)

/-- Creates what is missing of the event table and its indexes. -/
def define (s : Store) : Except StoreError Unit × Store :=
  if !s.seesCurrent then (.error .database, s)
  else if s.current.isDefined s.table.key then (.ok (), s)
  else (.ok (), s.commit (s.current.define s.table.key))

-- ============================================================ opening

def openOn (d : Database) (table : Sql.TableName) : Store :=
  { table, current := d.define table.key }

/-- Closes the store and opens it again. -/
def reopen (s : Store) : Store := openOn s.current s.table

end Store

end EventAnalytics
