/-
JSON texts as trees.

A text is recognised before anything in it is judged. The recogniser is a
machine with a stack that takes one token at a time, so nesting of any
depth costs no more than the tokens themselves. Its result, a node, still
holds numbers as written, strings that may name no text, and fields in the
order in which they came, repetitions included.

Judging comes second, and only where a value is kept: a kept value has
room for a limited number of containers inside each other, its numbers
must not be too large and its strings must be texts. A part that nobody
keeps is never judged.
-/
import EventAnalytics.Json.Token
import EventAnalytics.Json.Value

namespace EventAnalytics.Json

inductive Node where
  | null
  | bool (value : Bool)
  | number (value : Numeral)
  | string (value : Option String)
  | array (items : List Node)
  | object (fields : List (Option String × Node))

-- ======================================================== recognising

/-- A container that is still open, with its finished parts in reverse. -/
inductive Frame where
  | array (items : List Node)
  | object (fields : List (Option String × Node)) (key : Option String)

inductive Mode where
  /-- A value. -/
  | value
  /-- The first item of an array, or its end. -/
  | firstItem
  /-- The first key of an object, or its end. -/
  | firstKey
  /-- A further key of an object. -/
  | key (fields : List (Option String × Node))
  /-- The colon after a key. -/
  | colon (fields : List (Option String × Node)) (key : Option String)
  /-- What comes after a finished value. -/
  | done (node : Node)

structure Machine where
  stack : List Frame
  mode : Mode

namespace Machine

/-- The state at the start of a text. -/
def initial : Machine := ⟨[], .value⟩

/-- Takes a token that begins a value. -/
def start (stack : List Frame) : Token → Option Machine
  | .null => some ⟨stack, .done .null⟩
  | .bool b => some ⟨stack, .done (.bool b)⟩
  | .number n => some ⟨stack, .done (.number n)⟩
  | .string s => some ⟨stack, .done (.string s)⟩
  | .openBracket => some ⟨stack, .firstItem⟩
  | .openBrace => some ⟨stack, .firstKey⟩
  | _ => none

/-- Takes a token after a finished value. -/
def continue? (node : Node) : List Frame → Token → Option Machine
  | .array items :: stack, .comma => some ⟨.array (node :: items) :: stack, .value⟩
  | .array items :: stack, .closeBracket =>
    some ⟨stack, .done (.array (node :: items).reverse)⟩
  | .object fields key :: stack, .comma => some ⟨stack, .key ((key, node) :: fields)⟩
  | .object fields key :: stack, .closeBrace =>
    some ⟨stack, .done (.object ((key, node) :: fields).reverse)⟩
  | _, _ => none

def step (m : Machine) (t : Token) : Option Machine :=
  match m.mode, t with
  | .value, t => start m.stack t
  | .firstItem, .closeBracket => some ⟨m.stack, .done (.array [])⟩
  | .firstItem, t => start (.array [] :: m.stack) t
  | .firstKey, .closeBrace => some ⟨m.stack, .done (.object [])⟩
  | .firstKey, .string k => some ⟨m.stack, .colon [] k⟩
  | .key fields, .string k => some ⟨m.stack, .colon fields k⟩
  | .colon fields k, .colon => some ⟨.object fields k :: m.stack, .value⟩
  | .done node, t => continue? node m.stack t
  | _, _ => none

/-- The value of a text that has come to its end. -/
def result? : Machine → Option Node
  | ⟨[], .done node⟩ => some node
  | _ => none

end Machine

/-- The tree of a list of tokens. -/
def Node.ofTokens? (ts : List Token) : Option Node :=
  (ts.foldlM Machine.step Machine.initial).bind Machine.result?

/-- The tree of a JSON text. -/
def Node.ofText? (s : String) : Option Node :=
  (tokens s).bind Node.ofTokens?

-- ============================================================ numbers

/-- The largest significand of a number. -/
def maxSignificand : Nat := 0xffffffffffffffff

/-- A significand extended by digits until it would grow too large, with
the number of digits that found no place. -/
def extend (significand : Nat) : List Char → Nat × Nat
  | [] => (significand, 0)
  | c :: r =>
    let s := significand * 10 + Text.digitValue c
    if s ≤ maxSignificand then extend s r else (significand, r.length + 1)

/-- The double that a numeral stands for. -/
def Numeral.double? (n : Numeral) : Option Double :=
  let fraction := n.fraction.getD []
  let (whole, dropped) := extend 0 n.whole
  let (significand, unused) := extend whole fraction
  let used := fraction.length - unused
  Double.ofScientific? n.negative significand (dropped - used + n.exponent.getD 0)

/-- The number that a numeral stands for: exact when it is whole, written
without a point or an exponent, and fits 64 bits, with a sign or without.
A negative zero is a double. -/
def Numeral.value? (n : Numeral) : Option Json :=
  if n.fraction.isSome || n.exponent.isSome then n.double?.map .double
  else
    let v := Text.digitsValue n.whole
    if n.negative then
      if 0 < v ∧ v ≤ 0x8000000000000000 then some (.integer (-v))
      else n.double?.map .double
    else if v ≤ maxSignificand then some (.integer v)
    else n.double?.map .double

-- ============================================================ judging

/-- The number of containers that may stand inside each other. -/
def maxDepth : Nat := 127

mutual

/-- The value of a node that is kept, with room for `room` containers
inside each other. -/
def Node.value? (room : Nat) : Node → Option Json
  | .null => some .null
  | .bool b => some (.bool b)
  | .number n => n.value?
  | .string s => s.map .string
  | .array items =>
    match room with
    | 0 => none
    | r + 1 => (itemValues? r items).map .array
  | .object fields =>
    match room with
    | 0 => none
    | r + 1 => (fieldValues? r fields).map ofFields

/-- The values of the items of an array. -/
def itemValues? (room : Nat) : List Node → Option (List Json)
  | [] => some []
  | v :: vs =>
    match v.value? room, itemValues? room vs with
    | some w, some ws => some (w :: ws)
    | _, _ => none

/-- The values of the fields of an object. -/
def fieldValues? (room : Nat) :
    List (Option String × Node) → Option (List (String × Json))
  | [] => some []
  | (k, v) :: fs =>
    match k, v.value? room, fieldValues? room fs with
    | some k, some w, some ws => some ((k, w) :: ws)
    | _, _, _ => none

end

/-- The value that a JSON text stands for. -/
def ofText? (s : String) : Option Json :=
  (Node.ofText? s).bind (Node.value? maxDepth)

end EventAnalytics.Json
