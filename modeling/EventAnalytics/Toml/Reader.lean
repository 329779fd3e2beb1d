/-
Settings documents, read from text.

A document is a list of statements, one to a line: a key with its value,
the header of a table, or the header of the next item of a list of tables.
What the statements say is put together afterwards, so that the grammar
and the rules on tables stand apart.

Only arrays span lines. Values may stand inside each other up to a fixed
depth, and a dotted key may have as many parts.
-/
import EventAnalytics.Toml.Scalar
import EventAnalytics.Toml.Table

namespace EventAnalytics.Toml

-- =============================================================== keys

/-- The number of values that may stand inside each other, and of the parts
of a key. -/
def maxNesting : Nat := 79

/-- Whether a character may stand in an unquoted key. -/
def isKeyChar (c : Char) : Bool :=
  Text.isDigit c || Text.isLetter c || c == '_' || c == '-'

def readKeyPart (cs : List Char) : Option (String × List Char) :=
  match cs with
  | '"' :: _ | '\'' :: _ => readOneLine cs
  | _ =>
    match cs.takeWhile isKeyChar with
    | [] => none
    | k => some (String.ofList k, cs.dropWhile isKeyChar)

/-- The parts of a key up to and including the last, with dots between
them and blanks around each, put behind those read so far in reverse. -/
def readKeyParts (acc : List String) (cs : List Char) :
    Option (List String × List Char) :=
  match readKeyPart (skipSpace cs) with
  | none => none
  | some (k, r) =>
    match skipSpace r with
    | '.' :: r =>
      if _h : r.length < cs.length then readKeyParts (k :: acc) r else none
    | r => some ((k :: acc).reverse, r)
termination_by cs.length

/-- A key: the parts that lead to it, and its own name. -/
structure Key where
  path : List String
  name : String

/-- A key, blanks around it included. -/
def readKey (cs : List Char) : Option (Key × List Char) :=
  match readKeyParts [] cs with
  | none => none
  | some (parts, r) =>
    match parts.getLast? with
    | some name =>
      if parts.length ≤ maxNesting then some (⟨parts.dropLast, name⟩, r) else none
    | none => none

/-- A key, an equals sign and a value. -/
def readField (value : List Char → Option (Toml × List Char)) (cs : List Char) :
    Option ((Key × Toml) × List Char) := do
  let (key, r) ← readKey cs
  let r ← skipChar? '=' r
  let (v, r) ← value (skipSpace r)
  return ((key, v), r)

-- ============================================================= values

/-- The items of an array after its opening, put behind those read so far
in reverse. A comma may follow the last. -/
def readItems (value : List Char → Option (Toml × List Char)) (acc : List Toml)
    (cs : List Char) : Option (List Toml × List Char) :=
  match skipGaps cs with
  | ']' :: r => some (acc.reverse, r)
  | start =>
    match value start with
    | none => none
    | some (v, r) =>
      match skipGaps r with
      | ']' :: r => some ((v :: acc).reverse, r)
      | ',' :: r =>
        if _h : r.length < cs.length then readItems value (v :: acc) r else none
      | _ => none
termination_by cs.length

/-- The fields of a table between braces, its first key being next, added
to those read so far. -/
def readFields (value : List Char → Option (Toml × List Char)) (fields : Fields)
    (cs : List Char) : Option (Fields × List Char) :=
  match readField value cs with
  | none => none
  | some ((key, v), r) =>
    match fields.define key.path key.name v with
    | none => none
    | some fields =>
      match skipSpace r with
      | '\x7d' :: r => some (fields, r)
      | ',' :: r =>
        if _h : r.length < cs.length then readFields value fields r else none
      | _ => none
termination_by cs.length

/-- A table between braces, after its opening. -/
def readBraces (value : List Char → Option (Toml × List Char)) (cs : List Char) :
    Option (Toml × List Char) :=
  match skipSpace cs with
  | '\x7d' :: r => some (.table [], r)
  | _ => (readFields value [] cs).map fun p => (.table (results p.1), p.2)

/-- A value, with room for a number of values inside each other. -/
def readValue : Nat → List Char → Option (Toml × List Char)
  | 0, cs => readScalar cs
  | room + 1, cs =>
    match cs with
    | '[' :: r => (readItems (readValue room) [] r).map fun p => (.array p.1, p.2)
    | '\x7b' :: r => readBraces (readValue room) r
    | _ => readScalar cs

-- ========================================================= statements

inductive Statement where
  | field (key : Key) (value : Toml)
  | table (key : Key)
  | item (key : Key)

/-- A header after its opening brackets, up to and including the given
number of closing ones. -/
def readHeader (brackets : Nat) (cs : List Char) : Option (Key × List Char) := do
  let (key, r) ← readKey cs
  let closing := List.replicate brackets ']'
  if closing.isPrefixOf r then some (key, r.drop brackets) else none

/-- The statement at the front of a line. -/
def readStatement (cs : List Char) : Option (Statement × List Char) :=
  match cs with
  | '[' :: '[' :: r => (readHeader 2 r).map fun p => (.item p.1, p.2)
  | '[' :: r => (readHeader 1 r).map fun p => (.table p.1, p.2)
  | _ => (readField (readValue maxNesting) cs).map fun p => (.field p.1.1 p.1.2, p.2)

/-- The statements of a document, put behind those read so far in
reverse. -/
def readStatements (acc : List Statement) (cs : List Char) : Option (List Statement) :=
  match skipGaps cs with
  | [] => some acc.reverse
  | start =>
    match readStatement start with
    | none => none
    | some (s, r) =>
      match endLine? r with
      | none => none
      | some r =>
        if _h : r.length < cs.length then readStatements (s :: acc) r else none
termination_by cs.length

-- ========================================================== documents

/-- A document that is being put together: its fields, and the path of the
table that the last header opened. -/
structure Draft where
  fields : Fields
  current : List String

/-- What a statement does to a draft. -/
def Draft.step (d : Draft) : Statement → Option Draft
  | .field key v =>
    (d.fields.defineIn d.current key.path key.name v).map fun fs => { d with fields := fs }
  | .table key =>
    (d.fields.openTable key.path key.name).map fun fs => ⟨fs, key.path ++ [key.name]⟩
  | .item key =>
    (d.fields.openItem key.path key.name).map fun fs => ⟨fs, key.path ++ [key.name]⟩

/-- The text after a byte order mark at its front. -/
def dropMark : List Char → List Char
  | '\uFEFF' :: r => r
  | cs => cs

/-- The table that a document stands for. -/
def ofText? (s : String) : Option Toml := do
  let statements ← readStatements [] (dropMark s.toList)
  let draft ← statements.foldlM Draft.step ⟨[], []⟩
  return .table (results draft.fields)

end EventAnalytics.Toml
