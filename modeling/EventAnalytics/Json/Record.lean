/-
Records in JSON: a fixed set of named fields, some of them optional.

A record is written as an object, in any order of its fields, or as an
array with the values in the order of the fields, of which trailing ones
may be missing. In an object every key must be a text, and a field of the
record may be given once, under one of its names. A key that no field has
is refused by a closed record and passed over by an open one, value and
all.

Every decoder here answers for a node at a place with a known amount of
room, the number of containers that may still be opened.
-/
import EventAnalytics.Json.Node

namespace EventAnalytics.Json

/-- A node and the room that is left at its place. -/
structure Place where
  room : Nat
  node : Node

/-- The form of a record: the names of each field, the usual one first,
and whether other keys are refused. -/
structure RecordForm where
  names : List (List String)
  closed : Bool

def underNames (names : List String) (fields : List (Option String × Node)) :
    List Node :=
  fields.filterMap fun f =>
    match f.1 with
    | some k => if names.contains k then some f.2 else none
    | none => none

/-- The one node under the given names, if any; nothing at all when there
are several. -/
def atMostOne? (names : List String) (fields : List (Option String × Node)) :
    Option (Option Node) :=
  match underNames names fields with
  | [] => some none
  | [n] => some (some n)
  | _ => none

/-- Whether all keys are texts that the form admits. -/
def RecordForm.admits (form : RecordForm) (fields : List (Option String × Node)) : Bool :=
  fields.all fun f =>
    match f.1 with
    | some k => !form.closed || form.names.any fun names => names.contains k
    | none => false

/-- The values of a record's fields, in the order of the form. -/
def Place.record? (form : RecordForm) (p : Place) : Option (List (Option Place)) :=
  match p.room, p.node with
  | r + 1, .object fields =>
    if form.admits fields then
      (form.names.mapM fun names => atMostOne? names fields).map fun ns =>
        ns.map fun n => n.map fun n => ⟨r, n⟩
    else none
  | r + 1, .array items =>
    if items.length ≤ form.names.length then
      some (items.map (fun n => some ⟨r, n⟩)
        ++ List.replicate (form.names.length - items.length) none)
    else none
  | _, _ => none

def Place.text? (p : Place) : Option String :=
  match p.node with
  | .string s => s
  | _ => none

def Place.texts? (p : Place) : Option (List String) :=
  match p.room, p.node with
  | r + 1, .array items => items.mapM fun n => Place.text? ⟨r, n⟩
  | _, _ => none

def Place.list? {α : Type} (decode : Place → Option α) (p : Place) : Option (List α) :=
  match p.room, p.node with
  | r + 1, .array items => items.mapM fun n => decode ⟨r, n⟩
  | _, _ => none

/-- A value kept as it is. -/
def Place.value? (p : Place) : Option Json :=
  p.node.value? p.room

/-- A decoder that takes `null` for an absent value. -/
def Place.optional? {α : Type} (decode : Place → Option α) (p : Place) : Option (Option α) :=
  match p.node with
  | .null => some none
  | _ => (decode p).map some

/-- A whole number from zero up to a bound, written without point or
exponent. -/
def Place.natural? (most : Nat) (p : Place) : Option Nat :=
  match p.node with
  | .number n =>
    match n.value? with
    | some (.integer v) => if 0 ≤ v ∧ v ≤ most then some v.toNat else none
    | _ => none
  | _ => none

/-- A name out of a fixed set, written as a text or as an object with the
name as its one key and `null` under it. -/
def Place.choice? (p : Place) : Option String :=
  match p.room, p.node with
  | _, .string s => s
  | _ + 1, .object [(k, .null)] => k
  | _, _ => none

/-- The field's value, or a default where the field is missing. -/
def fieldOr {α : Type} (default : α) (decode : Place → Option α) :
    Option Place → Option α
  | none => some default
  | some p => decode p

/-- The value of a field that must be there. -/
def required {α : Type} (decode : Place → Option α) : Option Place → Option α
  | none => none
  | some p => decode p

def decodeText {α : Type} (decode : Place → Option α) (s : String) : Option α :=
  (Node.ofText? s).bind fun n => decode ⟨maxDepth, n⟩

end EventAnalytics.Json
