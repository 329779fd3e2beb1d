/-
The bounds of the calendar, in seconds and in years.

The calendar has whole years only, so that its first and its last second
are those of a year (`inCalendar_iff`). Within these bounds every second
is an instant, and a day that has one has all of its seconds.
-/
import EventAnalytics.Time.Instant

namespace EventAnalytics.Time

/-- Whether a second lies in a year of the calendar. -/
def InCalendar (second : Int) : Prop :=
  -262143 ≤ (Date.ofNumber (second / 86400)).year
    ∧ (Date.ofNumber (second / 86400)).year ≤ 262142

/-- A day comes in a year or later when it comes at the year's first day or
later. -/
theorem le_yearOfDay_iff {y n : Int} : y ≤ yearOfDay n ↔ firstDayNumber y ≤ n := by
  constructor
  · intro h
    exact Int.le_trans (firstDayNumber_mono h) (yearOfDay_le n)
  · intro h
    apply Int.not_lt.1
    intro hbefore
    have hmono := firstDayNumber_mono (Int.add_one_le_iff.2 hbefore)
    exact Int.lt_irrefl n (Int.lt_of_lt_of_le (lt_yearOfDay_succ n) (Int.le_trans hmono h))

/-- The calendar goes from its first second to its last. -/
theorem inCalendar_iff {second : Int} :
    InCalendar second ↔ firstSecond ≤ second ∧ second ≤ lastSecond := by
  have hfirst : firstDayNumber (-262143) = -96465292 := by decide
  have hlast : firstDayNumber 262143 = 95026237 := by decide
  have hupper : yearOfDay (second / 86400) ≤ 262142 ↔ ¬ 262143 ≤ yearOfDay (second / 86400) := by
    omega
  show -262143 ≤ yearOfDay (second / 86400) ∧ yearOfDay (second / 86400) ≤ 262142 ↔ _
  rw [hupper, le_yearOfDay_iff, le_yearOfDay_iff, hfirst, hlast]
  unfold firstSecond lastSecond
  omega

namespace Instant

theorem of?_of_le {seconds : Int} {nanos : Nat} (hfirst : firstSecond ≤ seconds)
    (hlast : seconds ≤ lastSecond) (hnanos : nanos < nanosPerSecond) :
    ∃ t, of? seconds nanos = some t ∧ t.seconds = seconds ∧ t.nanos = nanos := by
  have hfits : (firstSecond ≤ seconds ∧ seconds ≤ lastSecond) ∧ nanos < 2 * nanosPerSecond
      ∧ (nanosPerSecond ≤ nanos → seconds % 60 = 59) :=
    ⟨⟨hfirst, hlast⟩, by omega, fun h => absurd hnanos (Nat.not_lt.2 h)⟩
  unfold of?
  rw [dif_pos hfits]
  exact ⟨_, rfl, rfl, rfl⟩

theorem of?_of_lt {seconds : Int} {nanos : Nat} (h : seconds < firstSecond) :
    of? seconds nanos = none := by
  unfold of?
  rw [dif_neg]
  exact fun hfits => Int.not_le.2 h hfits.1.1

/-- Today ends within the calendar. -/
theorem end_of_day_le (t : Instant) : t.day * 86400 + 86399 ≤ lastSecond := by
  have hlast := t.le_last
  unfold lastSecond at hlast ⊢
  unfold day
  omega

/-- The years of the calendar. -/
theorem year_bounds (t : Instant) : -262143 ≤ t.date.year ∧ t.date.year ≤ 262142 :=
  inCalendar_iff.2 ⟨t.first_le, t.le_last⟩

/-- Between instants outside of leap seconds, time goes by the clock. -/
theorem nanosBetween_of_not_leap {a b : Instant} (ha : a.isLeap = false) (hb : b.isLeap = false) :
    nanosBetween a b
      = (b.seconds - a.seconds) * nanosPerSecond + ((b.nanos : Int) - a.nanos) := by
  unfold nanosBetween leapBetween
  rw [ha, hb]
  simp

end Instant

end EventAnalytics.Time
