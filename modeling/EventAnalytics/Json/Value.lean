/-
JSON values as the program keeps them.

Whole numbers that fit 64 bits stay exact; every other number is a double.
An object is a list of fields with distinct keys in increasing order, so
two objects with the same fields are the same value. A field put under a
key that is there already replaces the old one.
-/
import EventAnalytics.Decimal.Double

namespace EventAnalytics

/-- A JSON value. -/
inductive Json where
  | null
  | bool (value : Bool)
  | integer (value : Int)
  | double (value : Double)
  | string (value : String)
  | array (items : List Json)
  | object (fields : List (String × Json))
  deriving Repr

namespace Json

/-- Fields with a value put under a key, in order of their keys. -/
def insertField (key : String) (value : Json) :
    List (String × Json) → List (String × Json)
  | [] => [(key, value)]
  | (k, v) :: rest =>
    if key < k then (key, value) :: (k, v) :: rest
    else if key = k then (key, value) :: rest
    else (k, v) :: insertField key value rest

/-- The object with the given fields, of which the last under a key
counts. -/
def ofFields (fields : List (String × Json)) : Json :=
  .object (fields.foldl (fun acc f => insertField f.1 f.2 acc) [])

def emptyObject : Json := .object []

/-- The value of a field of an object. -/
def field? (key : String) : Json → Option Json
  | .object fields => (fields.find? fun f => f.1 == key).map Prod.snd
  | _ => none

end Json

end EventAnalytics
