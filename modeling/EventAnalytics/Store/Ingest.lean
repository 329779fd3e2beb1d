/-
Adding events line by line.

Every line of a text holds an event in JSON; a line of white space alone
is passed over. The first line that holds no event, or whose event the
store refuses, ends the work, and the lines before it stay stored. Lines
are counted from one.
-/
import EventAnalytics.Store.Basic
import EventAnalytics.Text.Lines

namespace EventAnalytics

/-- Why a text cannot be added to a store. -/
inductive IngestError where
  | notEvent (line : Nat)
  | refused (line : Nat) (id : String) (reason : StoreError)
  deriving DecidableEq, Repr

namespace Store

/-- Adds the events of some lines, of which the first has the given number,
and counts them. -/
def ingestLines (s : Store) (line : Nat) : List String → Except IngestError Nat × Store
  | [] => (.ok 0, s)
  | l :: ls =>
    if Text.isBlankText l then s.ingestLines (line + 1) ls
    else match Event.ofText? l with
      | none => (.error (.notEvent line), s)
      | some e =>
        match s.append e with
        | (.error reason, s) => (.error (.refused line e.id reason), s)
        | (.ok (), s) =>
          match s.ingestLines (line + 1) ls with
          | (.error err, s) => (.error err, s)
          | (.ok n, s) => (.ok (n + 1), s)

/-- Adds the events of a text and counts them. -/
def ingest (s : Store) (content : String) : Except IngestError Nat × Store :=
  s.ingestLines 1 (Text.lines content)

end Store

end EventAnalytics
