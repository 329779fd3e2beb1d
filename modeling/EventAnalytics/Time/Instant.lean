/-
Instants of universal time.

An instant is a whole second, counted from the first of January 1970, and
the nanoseconds past it. A leap second has no number of its own: it is the
second half of a 59th second, with nanoseconds of a billion and more. The
calendar ends at the years -262143 and 262142. These conditions are part
of the type, so whatever holds an instant holds one that can be written
down as a date and a time of day.

Instants are ordered by their seconds and then by their nanoseconds, which
puts a leap second after all of the second it extends.
-/
import EventAnalytics.Time.Date

namespace EventAnalytics.Time

def nanosPerSecond : Nat := 1000000000

/-- The first second of the calendar, -262143-01-01 00:00:00. -/
def firstSecond : Int := -8334601228800

/-- The last second of the calendar, 262142-12-31 23:59:59. -/
def lastSecond : Int := 8210266876799

/-- A point in time. -/
structure Instant where
  seconds : Int
  nanos : Nat
  first_le : firstSecond ≤ seconds
  le_last : seconds ≤ lastSecond
  nanos_lt : nanos < 2 * nanosPerSecond
  leap_at_59 : nanosPerSecond ≤ nanos → seconds % 60 = 59
  deriving DecidableEq, Repr

namespace Instant

/-- The instant with the given seconds and nanoseconds, if there is one. -/
def of? (seconds : Int) (nanos : Nat) : Option Instant :=
  if h : (firstSecond ≤ seconds ∧ seconds ≤ lastSecond) ∧ nanos < 2 * nanosPerSecond
      ∧ (nanosPerSecond ≤ nanos → seconds % 60 = 59) then
    some ⟨seconds, nanos, h.1.1, h.1.2, h.2.1, h.2.2⟩
  else none

/-- The instant 1970-01-01 00:00:00. -/
def epoch : Instant :=
  ⟨0, 0, by decide, by decide, by decide, by decide⟩

/-- Whether the instant lies inside a leap second. -/
def isLeap (t : Instant) : Bool := nanosPerSecond ≤ t.nanos

/-- Whether an instant is not after another. -/
def le (a b : Instant) : Bool :=
  a.seconds < b.seconds || (a.seconds = b.seconds && a.nanos ≤ b.nanos)

instance : LE Instant where
  le a b := a.le b = true

instance (a b : Instant) : Decidable (a ≤ b) :=
  inferInstanceAs (Decidable (a.le b = true))

def day (t : Instant) : Int := t.seconds / 86400

def secondOfDay (t : Instant) : Nat := (t.seconds % 86400).toNat

def date (t : Instant) : Date := Date.ofNumber t.day

/-- The first second of a day. -/
def startOfDay? (day : Int) : Option Instant := of? (day * 86400) 0

/-- The last whole second of a day. -/
def endOfDay? (day : Int) : Option Instant := of? (day * 86400 + 86399) 0

/-- The instant a positive number of seconds earlier. The way back out of
a leap second starts at the second after it. -/
def earlier? (t : Instant) (seconds : Int) : Option Instant :=
  if t.isLeap then of? (t.seconds + 1 - seconds) (t.nanos - nanosPerSecond)
  else of? (t.seconds - seconds) t.nanos

/-- The leap second between two times of day, by the sign of the way. -/
def leapBetween (start stop : Instant) : Int :=
  if start.secondOfDay < stop.secondOfDay && start.isLeap then 1
  else if stop.secondOfDay < start.secondOfDay && stop.isLeap then -1
  else 0

/-- The nanoseconds from one instant to another. A leap second counts when
it lies between the two times of day. -/
def nanosBetween (start stop : Instant) : Int :=
  (stop.seconds - start.seconds + leapBetween start stop) * nanosPerSecond
    + (stop.nanos - start.nanos)

/-- The whole seconds from one instant to another, rounded toward zero. -/
def secondsBetween (start stop : Instant) : Int :=
  (nanosBetween start stop).tdiv nanosPerSecond

-- ============================================================== laws

theorem le_iff {a b : Instant} :
    a ≤ b ↔ a.seconds < b.seconds ∨ (a.seconds = b.seconds ∧ a.nanos ≤ b.nanos) := by
  show a.le b = true ↔ _
  simp [le]

theorem eq_of_fields {a b : Instant} (hs : a.seconds = b.seconds)
    (hn : a.nanos = b.nanos) : a = b := by
  cases a; cases b; simp_all

/-- An instant is found by its own parts. -/
theorem of?_fields (t : Instant) : of? t.seconds t.nanos = some t := by
  unfold of?
  rw [dif_pos ⟨⟨t.first_le, t.le_last⟩, t.nanos_lt, t.leap_at_59⟩]

end Instant

end EventAnalytics.Time
