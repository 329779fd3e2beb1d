/-
Ranges of time, and the expressions that name them.

A range has two ends that both belong to it. It can be written as two
bounds with a comma between them, as `today` or `yesterday`, or as a
number of hours, days or weeks. Hours are counted back from the present
moment; days and weeks are whole days up to and including today, so their
range depends on the present only through its date.

A bound that is a date stands for the first second of the day where the
range starts and for the last whole second where it ends.
-/
import EventAnalytics.Text.Lines
import EventAnalytics.Time.Reader
import EventAnalytics.Time.Written

namespace EventAnalytics

open Time (Instant)

/-- Why an expression names no range. -/
inductive RangeError where
  | endBeforeStart
  | unknownFormat (text : String)
  | unknownUnit (unit : Char) (text : String)
  | outOfRange (text : String)
  | invalidDate (text : String)
  deriving DecidableEq, Repr

def RangeError.message : RangeError → String
  | .endBeforeStart => "end must be after start"
  | .unknownFormat s => "unknown time range format: " ++ s
  | .unknownUnit u s => "unknown time unit '" ++ u.toString ++ "' in " ++ s
  | .outOfRange s => "out of range: " ++ s
  | .invalidDate s => "invalid date: " ++ s ++ " (use YYYY-MM-DD or RFC 3339)"

/-- A range of time, both ends included. -/
structure TimeRange where
  start : Instant
  stop : Instant
  start_le : start ≤ stop
  deriving DecidableEq, Repr

/-- The unit of a relative window. -/
inductive WindowUnit where
  | hours
  | days
  | weeks
  | other (letter : Char)
  deriving DecidableEq, Repr

/-- A number of units back from the present. -/
structure Window where
  count : Int
  unit : WindowUnit
  deriving DecidableEq, Repr

namespace Window

/-- The largest whole number a count may be. -/
def maxCount : Int := 9223372036854775807

/-- The longest span of time, in seconds. -/
def maxSpan : Int := 9223372036854775

/-- The unit that a letter stands for, in either case. -/
def unitOf (c : Char) : WindowUnit :=
  match Text.lowerChar c with
  | 'h' => .hours
  | 'd' => .days
  | 'w' => .weeks
  | l => .other l

/-- The digits of a count after its optional sign, and whether the sign
was a minus. -/
def unsigned : List Char → Bool × List Char
  | '+' :: r => (false, r)
  | '-' :: r => (true, r)
  | r => (false, r)

/-- A positive whole number with an optional plus sign, if it is not too
large. -/
def readCount? (cs : List Char) : Option Int :=
  match unsigned cs with
  | (true, _) => none
  | (false, ds) =>
    (Text.readNumeral ds).bind fun n =>
      if 0 < n ∧ (n : Int) ≤ maxCount then some n else none

/-- The window that a text such as `7d` names. -/
def ofText? (s : String) : Option Window :=
  match s.toList.getLast? with
  | none => none
  | some c =>
    if Text.isLetter c then
      (readCount? s.toList.dropLast).map fun n => ⟨n, unitOf c⟩
    else none

/-- The days before today that a number of whole days reaches back to. -/
def daysBack? (days : Int) : Option Int :=
  if (days - 1) * 86400 ≤ maxSpan then some (days - 1) else none

/-- The seconds that a number of hours reaches back. -/
def secondsBack? (hours : Int) : Option Int :=
  if hours * 3600 ≤ maxSpan then some (hours * 3600) else none

end Window

namespace TimeRange

/-- The range between two instants, unless the end comes first. -/
def between (start stop : Instant) : Except RangeError TimeRange :=
  if h : start ≤ stop then .ok ⟨start, stop, h⟩ else .error .endBeforeStart

/-- The whole days from one to another, both included. -/
def days (text : String) (first last : Int) : Except RangeError TimeRange :=
  match Instant.startOfDay? first, Instant.endOfDay? last with
  | some a, some b => between a b
  | _, _ => .error (.outOfRange text)

/-- A bound of an explicit range: an instant, or a date that stands for
the start or the end of its day. -/
def bound (atEnd : Bool) (s : String) : Except RangeError Instant :=
  match Time.readStrict s with
  | .ok t => .ok t
  | .error _ =>
    match Time.readDay s with
    | .error _ => .error (.invalidDate s)
    | .ok n =>
      match if atEnd then Instant.endOfDay? n else Instant.startOfDay? n with
      | some t => .ok t
      | none => .error (.outOfRange s)

/-- The two bounds around the first comma. -/
def bounds? (s : String) : Option (String × String) :=
  let cs := s.toList
  match cs.dropWhile (· ≠ ',') with
  | [] => none
  | _ :: r => some (String.ofList (cs.takeWhile (· ≠ ',')), String.ofList r)

/-- The range of a relative window that ends at `now`. -/
def ofWindow (text : String) (w : Window) (now : Instant) : Except RangeError TimeRange :=
  match w.unit with
  | .hours =>
    match (Window.secondsBack? w.count).bind now.earlier? with
    | some start => between start now
    | none => .error (.outOfRange text)
  | .days =>
    match Window.daysBack? w.count with
    | some k => days text (now.day - k) now.day
    | none => .error (.outOfRange text)
  | .weeks =>
    match Window.daysBack? (w.count * 7) with
    | some k => days text (now.day - k) now.day
    | none => .error (.outOfRange text)
  | .other u => .error (.unknownUnit u text)

/-- The range that an expression without blanks at its ends names. -/
def ofTrimmed (s : String) (now : Instant) : Except RangeError TimeRange :=
  match bounds? s with
  | some (a, b) => do
    let start ← bound false (Text.trimmed a)
    let stop ← bound true (Text.trimmed b)
    between start stop
  | none =>
    if Text.lowered s = "today" then days s now.day now.day
    else if Text.lowered s = "yesterday" then days s (now.day - 1) (now.day - 1)
    else
      match Window.ofText? s with
      | none => .error (.unknownFormat s)
      | some w => ofWindow s w now

/-- The range that an expression names at the moment `now`. -/
def ofText (s : String) (now : Instant) : Except RangeError TimeRange :=
  ofTrimmed (Text.trimmed s) now

/-- The whole seconds from the start to the end. -/
def seconds (r : TimeRange) : Int :=
  Instant.secondsBetween r.start r.stop

/-- The clause that keeps the range's part of a column. -/
def sql (r : TimeRange) (column : String) : String :=
  column ++ " >= '" ++ r.start.sqlText ++ "' AND " ++ column ++ " <= '"
    ++ r.stop.sqlText ++ "'"

end TimeRange

end EventAnalytics
