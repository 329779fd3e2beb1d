/-
Records in settings documents: a fixed set of named fields.

A record is written as a table, of which fields that nobody knows are
passed over, or as an array with the values in the order of the fields, of
which trailing ones may be missing and surplus ones are passed over. A
date is a record of which no field is known.
-/
import EventAnalytics.Toml.Value

namespace EventAnalytics.Toml

/-- The values of a record's fields, in the order of their names. -/
def record? (names : List String) : Toml → Option (List (Option Toml))
  | .table fields =>
    some (names.map fun n => (fields.find? fun f => f.1 == n).map Prod.snd)
  | .array items =>
    some (names.mapIdx fun i _ => items[i]?)
  | .moment _ => some (names.map fun _ => none)
  | _ => none

def text? : Toml → Option String
  | .text s => some s
  | _ => none

def list? {α : Type} (decode : Toml → Option α) : Toml → Option (List α)
  | .array items => items.mapM decode
  | _ => none

def texts? : Toml → Option (List String) := list? text?

/-- A name out of a fixed set: a text, or a table with the name as its one
key and an empty table or array under it. -/
def choice? : Toml → Option String
  | .text s => some s
  | .table [(k, .table [])] => some k
  | .table [(k, .array [])] => some k
  | _ => none

/-- The field's value, or a default where the field is missing. -/
def fieldOr {α : Type} (default : α) (decode : Toml → Option α) :
    Option Toml → Option α
  | none => some default
  | some v => decode v

/-- The value of a field that must be there. -/
def required {α : Type} (decode : Toml → Option α) : Option Toml → Option α
  | none => none
  | some v => decode v

end EventAnalytics.Toml
