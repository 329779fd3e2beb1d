/-
Instants in writing.

Three forms share a date and a clock time. The date has a year of at least
four digits, with a sign in front when it lies before year 0 or after
9999; a leap second shows as second 60. The literal used in SQL drops the
fraction; the two interchange forms keep it in groups of three digits and
differ in how they name universal time, `+00:00` or `Z`.
-/
import EventAnalytics.Text.Numeral
import EventAnalytics.Time.Instant

namespace EventAnalytics.Time

open Text (numeral padded)

def yearText (y : Int) : List Char :=
  if 0 ≤ y ∧ y ≤ 9999 then padded 4 y.natAbs
  else (if y < 0 then '-' else '+') :: padded 4 y.natAbs

def Date.text (d : Date) : List Char :=
  yearText d.year ++ '-' :: padded 2 d.month ++ '-' :: padded 2 d.day

namespace Instant

/-- The second of the minute as written: 60 inside a leap second. -/
def shownSecond (t : Instant) : Nat :=
  t.secondOfDay % 60 + (if t.isLeap then 1 else 0)

/-- The time of day as written, without a fraction. -/
def clockText (t : Instant) : List Char :=
  padded 2 (t.secondOfDay / 3600) ++ ':' :: padded 2 (t.secondOfDay / 60 % 60)
    ++ ':' :: padded 2 t.shownSecond

/-- The nanoseconds within the second that is shown. -/
def shownNanos (t : Instant) : Nat := t.nanos % nanosPerSecond

/-- The fraction of the second as written: nothing when it is zero, else
the fewest groups of three digits that hold all of it. -/
def fractionText (t : Instant) : List Char :=
  let n := t.shownNanos
  if n = 0 then []
  else if n % 1000000 = 0 then '.' :: padded 3 (n / 1000000)
  else if n % 1000 = 0 then '.' :: padded 6 (n / 1000)
  else '.' :: padded 9 n

/-- The instant as an SQL timestamp literal with its offset. -/
def sqlChars (t : Instant) : List Char :=
  t.date.text ++ ' ' :: t.clockText ++ "+00:00".toList

/-- The instant as an SQL timestamp literal with its offset. -/
def sqlText (t : Instant) : String := String.ofList t.sqlChars

/-- The instant in interchange form, up to the offset. -/
def localChars (t : Instant) : List Char :=
  t.date.text ++ 'T' :: t.clockText ++ t.fractionText

/-- The instant in interchange form with a numeric offset. -/
def offsetText (t : Instant) : String :=
  String.ofList (t.localChars ++ "+00:00".toList)

/-- The instant in interchange form with `Z` for the offset. -/
def zuluText (t : Instant) : String :=
  String.ofList (t.localChars ++ ['Z'])

end Instant

end EventAnalytics.Time
