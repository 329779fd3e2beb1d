/-
Log filters: which directives a filter may be made of.

A filter is a list of directives with commas between them; empty ones are
passed over. A directive names a target, or a level alone, or a span with
fields between braces, and may end in an equals sign and a level:
`info`, `store=debug`, `store[append{id}]=trace`. White space around a
directive is passed over too, unless the directive ends in a level.
-/
import EventAnalytics.Settings.Log
import EventAnalytics.Text.Alphanumeric
import EventAnalytics.Text.Lines

namespace EventAnalytics.LogFilter

/-- What has been read of a directive. -/
inductive Progress where
  | start
  /-- Inside a level or the name of a target. -/
  | word
  /-- Inside the brackets of a span. -/
  | span
  /-- Inside a field of a span; whether nothing of it has been read. -/
  | field (isEmpty : Bool)
  /-- After the fields of a span. -/
  | fields
  /-- After a span. -/
  | target
  /-- Inside the level, of which this much has been read, in reverse. -/
  | level (read : List Char)
  deriving DecidableEq, Repr

/-- Reads one character of a directive. -/
def Progress.step : Progress → Char → Option Progress
  | .start, '[' => some .span
  | .start, c =>
    if c = '-' ∨ c = ':' ∨ c = '_' ∨ Text.isAlphanumeric c then some .word else none
  | .word, '=' => some (.level [])
  | .word, '[' => some .span
  | .word, _ => some .word
  | .span, ']' => some .target
  | .span, '\x7b' => some (.field true)
  | .span, _ => some .span
  | .field isEmpty, '\x7d' => if isEmpty then none else some .fields
  | .field _, _ => some (.field false)
  | .fields, ']' => some .target
  | .fields, _ => none
  | .target, '=' => some (.level [])
  | .target, _ => none
  | .level read, c => some (.level (c :: read))

/-- Whether some characters are a level: a name in any case, or a number up
to five. -/
def isLevel (cs : List Char) : Bool :=
  let digits := match cs with
    | '+' :: r => r
    | _ => cs
  match Text.readNumeral digits with
  | some n => n ≤ 5
  | none =>
    ["off", "error", "warn", "info", "debug", "trace"].contains
      (Text.lowered (String.ofList cs))

def isDirective (cs : List Char) : Bool :=
  let bare := Text.trim cs
  match bare.foldlM Progress.step .start with
  | some .word | some .target => true
  | some (.level read) => bare == cs && (read.isEmpty || isLevel read.reverse)
  | _ => false

/-- Whether a text is a filter. -/
def isFilter (s : String) : Bool :=
  (Text.splitAt ',' s.toList).all fun d => d.isEmpty || isDirective d

end EventAnalytics.LogFilter
