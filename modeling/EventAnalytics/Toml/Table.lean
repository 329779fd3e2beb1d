/-
How tables grow while a document is read.

A table can come about in three ways: by a header of its own, by a header
of a table inside it, or by a dotted key. The way decides what may happen
to it later. A header may come once for each table, and only for one that
nothing but headers inside it have implied. A dotted key may pass through
any table that has no header of its own, and may put its value only into a
table that dotted keys made. The items of a list of tables are opened one
after the other; a key that leads through the list means its last item.

A value that has been written out is closed: nothing leads into it.
-/
import EventAnalytics.Toml.Value

namespace EventAnalytics.Toml

inductive Origin where
  /-- By its own header, as the document itself, or between braces. -/
  | header
  /-- By the header of a table inside it. -/
  | implied
  /-- By a dotted key. -/
  | dotted
  deriving DecidableEq, Repr

/-- What stands under a key of a table that may still grow. -/
inductive Entry where
  | value (value : Toml)
  | table (origin : Origin) (fields : List (String × Entry))
  /-- A list of tables: the finished ones, and the fields of the last. -/
  | tables (finished : List Toml) (last : List (String × Entry))

/-- The fields of a table that may still grow. -/
abbrev Fields := List (String × Entry)

-- ============================================================= result

mutual

/-- The value that an entry has come to. -/
def Entry.result : Entry → Toml
  | .value v => v
  | .table _ fields => .table (results fields)
  | .tables finished last => .array (finished ++ [.table (results last)])

/-- The values that fields have come to. -/
def results : List (String × Entry) → List (String × Toml)
  | [] => []
  | (k, e) :: r => (k, e.result) :: results r

end

-- ============================================================= growth

namespace Fields

def get? (fields : Fields) (key : String) : Option Entry :=
  (fields.find? fun f => f.1 == key).map Prod.snd

/-- The fields with an entry under a key, in place of an earlier one. -/
def put (key : String) (e : Entry) : Fields → Fields
  | [] => [(key, e)]
  | f :: r => if f.1 = key then (key, e) :: r else f :: put key e r

/-- Changes the table that a path of keys leads to. On the way, tables
that are not there come about as `made`, a list of tables stands for its
last item, and values are closed. A dotted key does not pass through a
table with a header. -/
def along (made : Origin) (change : Origin → Fields → Option Fields) :
    List String → Origin → Fields → Option Fields
  | [], origin, fields => change origin fields
  | k :: ks, _, fields =>
    match fields.get? k with
    | none => (along made change ks made []).map fun u => fields.put k (.table made u)
    | some (.value _) => none
    | some (.table origin u) =>
      if made = .dotted ∧ origin = .header then none
      else (along made change ks origin u).map fun u => fields.put k (.table origin u)
    | some (.tables finished last) =>
      (along made change ks .header last).map fun u => fields.put k (.tables finished u)

/-- Puts a value under a key that leads through `path`. Only a table made
by dotted keys takes a value at the end of such a path, and no key takes
two. -/
def define (path : List String) (key : String) (v : Toml) (fields : Fields) :
    Option Fields :=
  along .dotted
    (fun origin fs =>
      if !path.isEmpty ∧ origin ≠ .dotted then none
      else match fs.get? key with
        | none => some (fs.put key (.value v))
        | some _ => none)
    path .header fields

/-- Opens a table by its header. -/
def openTable (path : List String) (key : String) (fields : Fields) : Option Fields :=
  along .implied
    (fun _ fs =>
      match fs.get? key with
      | none => some (fs.put key (.table .header []))
      | some (.table .implied u) => some (fs.put key (.table .header u))
      | some _ => none)
    path .header fields

/-- Opens the next item of a list of tables by its header. -/
def openItem (path : List String) (key : String) (fields : Fields) : Option Fields :=
  along .implied
    (fun _ fs =>
      match fs.get? key with
      | none => some (fs.put key (.tables [] []))
      | some (.tables finished last) =>
        some (fs.put key (.tables (finished ++ [.table (results last)]) []))
      | some _ => none)
    path .header fields

/-- Puts a value into the table that headers have led to. -/
def defineIn (current path : List String) (key : String) (v : Toml) (fields : Fields) :
    Option Fields :=
  along .implied (fun _ fs => fs.define path key v) current .header fields

end Fields

end EventAnalytics.Toml
