/-
Dot-paths and the pointers built from them.

A path such as `payload.usage.total` is split at every dot. A segment is
safe when it is not empty and holds only letters, numbers, `_` and `-`:
no quote, no blank and no sign that a JSON path or an SQL literal gives a
meaning to. A pointer is a list of safe segments, and it carries the proof
of that, so the text it renders to can stand inside a single-quoted
literal as it is.

The check reports the leftmost unsafe segment together with the whole
path it came from.
-/
import EventAnalytics.Text.Alphanumeric
import EventAnalytics.Text.Lines
import EventAnalytics.Text.Quoted

namespace EventAnalytics

/-- Whether a character may occur in a segment. -/
def isSegmentChar (c : Char) : Bool :=
  Text.isAlphanumeric c || c == '_' || c == '-'

/-- Whether a segment may be embedded in a pointer. -/
def isSafeSegment (s : String) : Bool :=
  !s.toList.isEmpty && s.toList.all isSegmentChar

/-- The segments of a dot-path; there is always at least one. -/
def pathSegments (path : String) : List String :=
  Text.parts '.' path

/-- A segment that may not be embedded, and the path that holds it. -/
structure UnsafeSegment where
  path : String
  segment : String
  deriving DecidableEq, Repr

/-- The report of an unsafe segment. -/
def UnsafeSegment.message (e : UnsafeSegment) : String :=
  "unsafe path segment " ++ Text.quoted e.segment ++ " in " ++ Text.quoted e.path

/-- A JSON pointer: safe segments below the root of a document. -/
structure Pointer where
  segments : List String
  safe : segments.all isSafeSegment = true

namespace Pointer

/-- The pointer along the given segments, which came from `path`. -/
def along (path : String) (segments : List String) : Except UnsafeSegment Pointer :=
  match h : segments.find? fun s => !isSafeSegment s with
  | some s => .error ⟨path, s⟩
  | none => .ok ⟨segments, by simpa using h⟩

/-- The pointer's text: `$`, and a dot before each segment. -/
def text (p : Pointer) : String :=
  "$" ++ String.join (p.segments.map fun s => "." ++ s)

/-- The pointer below the first segment. -/
def tail (p : Pointer) : Pointer :=
  ⟨p.segments.tail, by
    have h := p.safe
    simp only [List.all_eq_true] at h ⊢
    exact fun s hs => h s (List.mem_of_mem_tail hs)⟩

end Pointer

end EventAnalytics
