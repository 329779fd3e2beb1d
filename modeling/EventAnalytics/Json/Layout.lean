/-
Records as JSON text, with their fields in a fixed order.

A value's own text sorts the fields of an object. A record keeps the
order in which it lists them and may leave fields out, so its text is put
together from the texts of its fields.
-/
import EventAnalytics.Json.Writer

namespace EventAnalytics.Json

/-- The text of a record with the given fields, each a name and a text. -/
def recordText (fields : List (String × String)) : String :=
  "\x7b" ++ String.intercalate "," (fields.map fun f =>
    (Json.string f.1).text ++ ":" ++ f.2) ++ "\x7d"

def listText (items : List String) : String :=
  "[" ++ String.intercalate "," items ++ "]"

def textsText (items : List String) : String :=
  listText (items.map fun s => (Json.string s).text)

/-- A field that is left out when its value is absent. -/
def optionalField {α : Type} (name : String) (show_ : α → String) :
    Option α → List (String × String)
  | none => []
  | some a => [(name, show_ a)]

/-- A field that holds a text, left out when it is absent. -/
def optionalText (name : String) : Option String → List (String × String) :=
  optionalField name fun s => (Json.string s).text

end EventAnalytics.Json
