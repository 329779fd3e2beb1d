/-
Names of tables, as statements spell them.

A name is spelled bare or between quotes. A bare name starts with a
letter, an underscore or any character outside ASCII, goes on with those,
digits and `$`, and is none of the words that the grammar of statements
keeps for itself. Between quotes anything goes; a quote inside is doubled,
but for brackets, which know no doubling. Blanks around a name do not
count.

The database knows a table by its name without quotes and in small
letters, and keeps the names that start with `sqlite_` to itself.
-/
import EventAnalytics.Text.Capital
import EventAnalytics.Text.Numeral

namespace EventAnalytics.Sql

/-- The words that cannot be bare names, in small letters. -/
def reservedWords : List String :=
  ["add", "all", "alter", "and", "as", "autoincrement", "between", "case",
    "check", "collate", "commit", "constraint", "create", "default",
    "deferrable", "delete", "distinct", "drop", "else", "escape", "except",
    "exists", "foreign", "from", "group", "having", "in", "index", "insert",
    "intersect", "into", "is", "isnull", "join", "limit", "not", "nothing",
    "notnull", "null", "on", "or", "order", "primary", "references",
    "returning", "select", "set", "table", "then", "to", "transaction",
    "union", "unique", "update", "using", "values", "when", "where"]

/-- Whether a character separates the parts of a statement. -/
def isSpace (c : Char) : Bool :=
  c == ' ' || c == '\t' || c == '\n' || c == '\x0c' || c == '\r'

/-- Whether a bare name can start with a character. -/
def isNameStart (c : Char) : Bool :=
  Text.isLetter c || c == '_' || 128 ≤ c.toNat

/-- Whether a bare name can go on with a character. -/
def isNameChar (c : Char) : Bool :=
  isNameStart c || Text.isDigit c || c == '$'

def isBareName (cs : List Char) : Bool :=
  match cs with
  | c :: r =>
    isNameStart c && r.all isNameChar
      && !reservedWords.contains (Text.lowered (String.ofList cs))
  | [] => false

/-- Whether a quotation, after its opening quote, ends with the text: every
quote before the last character is doubled. -/
def closesAtEnd (quote : Char) : List Char → Bool
  | [] => false
  | [c] => c == quote
  | c :: d :: r =>
    if c = quote then d == quote && closesAtEnd quote r else closesAtEnd quote (d :: r)

/-- What a spelling without blanks around it names. -/
def named? (cs : List Char) : Option (List Char) :=
  match cs with
  | '"' :: r => if closesAtEnd '"' r then some r.dropLast else none
  | '\'' :: r => if closesAtEnd '\'' r then some r.dropLast else none
  | '\x60' :: r => if closesAtEnd '\x60' r then some r.dropLast else none
  | '[' :: r => if r.idxOf? ']' = some (r.length - 1) then some r.dropLast else none
  | _ => if isBareName cs then some cs else none

/-- Whether the database keeps a name to itself. -/
def isInternal (key : String) : Bool :=
  "sqlite_".toList.isPrefixOf key.toList

structure TableName where
  /-- The name as statements spell it. -/
  spelling : String
  /-- The name that the database knows the table by, with the ASCII letters
  small. -/
  key : String
  deriving DecidableEq, Repr

namespace TableName

/-- The name with a given spelling, if it can name a table. -/
def ofSpelling? (s : String) : Option TableName :=
  let bare := ((s.toList.dropWhile isSpace).reverse.dropWhile isSpace).reverse
  match named? bare with
  | none => none
  | some cs =>
    let key := Text.lowered (String.ofList cs)
    if isInternal key then none else some ⟨s, key⟩

/-- Whether the spelling is, letter by letter, the name that the database
knows the table by. -/
def isPlain (t : TableName) : Bool :=
  t.spelling == t.key && t.key.toList.all fun c => !Text.isCapital c

end TableName

end EventAnalytics.Sql
