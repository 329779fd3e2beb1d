/-
Paths of files, as texts.

A path is a list of pieces between slashes. An empty piece stands for
nothing, and so does a single dot, except at the very start of a relative
path. The parent of a path is the text up to the piece before the last
that stands for something, without slashes at its end.
-/
import EventAnalytics.Text.Lines

namespace EventAnalytics.Files

def pieces (path : String) : List String := Text.parts '/' path

/-- Whether a path starts at the root. -/
def isAbsolute (path : String) : Bool := path.toList.head? == some '/'

/-- Pieces without those at their end that stand for nothing. -/
def trimPieces (ps : List String) : List String :=
  let kept := (ps.reverse.dropWhile fun p => p == "" || p == ".").reverse
  match kept, ps with
  | [], "." :: _ => ["."]
  | _, _ => kept

/-- The path above a given one; none above a path without pieces. -/
def parent? (path : String) : Option String :=
  match trimPieces (pieces path) with
  | [] => none
  | ps =>
    match trimPieces ps.dropLast with
    | [] => some (if isAbsolute path then "/" else "")
    | qs => some (String.intercalate "/" qs)

/-- A path and the paths above it, of which there are at most as many as
given, without the empty one. -/
def chain : Nat → String → List String
  | 0, _ => []
  | n + 1, path =>
    if path = "" then []
    else match parent? path with
      | none => [path]
      | some p => path :: chain n p

/-- A path and all paths above it, without the empty one. -/
def ancestry (path : String) : List String :=
  chain (pieces path).length path

end EventAnalytics.Files
