/-
The proleptic Gregorian calendar, as a numbering of days.

A date is a year, a month and a day; day number 0 is the first of January
1970. The number of a date is found by counting whole years, then whole
months, then days. The other direction guesses the year from the mean
length of a year, 146097 days in 400 years: since the leap days of a
century drift from the mean by less than two days, the guess is off by at
most one, and one comparison on each side settles it.

Main statements: the two directions are inverse to each other, on all
whole numbers and on all dates that exist.
-/

namespace EventAnalytics.Time

/-- Whether a year has a leap day. -/
def isLeapYear (y : Int) : Bool :=
  y % 4 = 0 && (y % 100 ≠ 0 || y % 400 = 0)

/-- The days between the first day of year 1 and that of a given year. -/
def daysBeforeYear (y : Int) : Int :=
  365 * (y - 1) + (y - 1) / 4 - (y - 1) / 100 + (y - 1) / 400

/-- The lengths of the months of a common or a leap year. -/
def monthLengths (leap : Bool) : List Nat :=
  [31, if leap then 29 else 28, 31, 30, 31, 30, 31, 31, 30, 31, 30, 31]

/-- The days before 1970, from the first day of year 1. -/
def epochDays : Int := 719162

/-- A day of the calendar. -/
structure Date where
  year : Int
  month : Nat
  day : Nat
  deriving DecidableEq, Repr

/-- The number of the year's first day. -/
def firstDayNumber (y : Int) : Int :=
  daysBeforeYear y - epochDays

/-- The year that a day falls in. -/
def yearOfDay (n : Int) : Int :=
  let y := (n + epochDays) * 400 / 146097 + 1
  if firstDayNumber (y + 1) ≤ n then y + 1
  else if firstDayNumber y ≤ n then y
  else y - 1

/-- The days of a run of months. -/
def daysIn : List Nat → Nat
  | [] => 0
  | l :: ls => l + daysIn ls

/-- The month and the day within it, both counted from zero, that the
`n`-th day of a run of months falls on. -/
def splitMonths : List Nat → Nat → Nat × Nat
  | [], n => (0, n)
  | l :: ls, n =>
    if n < l then (0, n)
    else
      let r := splitMonths ls (n - l)
      (r.1 + 1, r.2)

namespace Date

/-- The length of the date's month, if there is such a month. -/
def monthLength? (d : Date) : Option Nat :=
  if d.month = 0 then none else (monthLengths (isLeapYear d.year))[d.month - 1]?

/-- Whether the date stands in the calendar. -/
def exists? (d : Date) : Bool :=
  match d.monthLength? with
  | some l => 1 ≤ d.day && d.day ≤ l
  | none => false

def number (d : Date) : Int :=
  firstDayNumber d.year
    + daysIn ((monthLengths (isLeapYear d.year)).take (d.month - 1))
    + (d.day - 1 : Nat)

/-- The date with a given number. -/
def ofNumber (n : Int) : Date :=
  let y := yearOfDay n
  let r := splitMonths (monthLengths (isLeapYear y)) (n - firstDayNumber y).toNat
  ⟨y, r.1 + 1, r.2 + 1⟩

end Date

-- ======================================================= whole years

/-- A year has 365 days, and one more when it has a leap day. -/
theorem firstDayNumber_succ (y : Int) :
    firstDayNumber (y + 1)
      = firstDayNumber y + (if isLeapYear y then 366 else 365) := by
  unfold firstDayNumber daysBeforeYear isLeapYear
  split <;> simp_all <;> omega

/-- A day does not come before the first day of its year. -/
theorem yearOfDay_le (n : Int) : firstDayNumber (yearOfDay n) ≤ n := by
  unfold yearOfDay
  simp only
  split
  · assumption
  · split
    · assumption
    · unfold firstDayNumber daysBeforeYear epochDays at *
      omega

/-- A day comes before the first day of the next year. -/
theorem lt_yearOfDay_succ (n : Int) : n < firstDayNumber (yearOfDay n + 1) := by
  unfold yearOfDay
  simp only
  split
  · unfold firstDayNumber daysBeforeYear epochDays at *
    omega
  · split
    · omega
    · next h => simpa using h

/-- Later years start later. -/
theorem firstDayNumber_mono {a b : Int} (h : a ≤ b) :
    firstDayNumber a ≤ firstDayNumber b := by
  unfold firstDayNumber daysBeforeYear
  omega

/-- Only one year can hold a day. -/
theorem yearOfDay_eq {n y : Int} (lo : firstDayNumber y ≤ n)
    (hi : n < firstDayNumber (y + 1)) : yearOfDay n = y := by
  have h1 := yearOfDay_le n
  have h2 := lt_yearOfDay_succ n
  rcases Int.lt_trichotomy (yearOfDay n) y with h | h | h
  · have := firstDayNumber_mono (a := yearOfDay n + 1) (b := y) (by omega)
    omega
  · exact h
  · have := firstDayNumber_mono (a := y + 1) (b := yearOfDay n) (by omega)
    omega

-- ====================================================== whole months

/-- The month and the day in it count up to the day that was split. -/
theorem daysIn_take_splitMonths (ls : List Nat) (n : Nat) (h : n < daysIn ls) :
    daysIn (ls.take (splitMonths ls n).1) + (splitMonths ls n).2 = n := by
  induction ls generalizing n with
  | nil => simp [daysIn] at h
  | cons l ls ih =>
    unfold splitMonths
    split
    · simp [daysIn]
    · have := ih (n - l) (by simp [daysIn] at h; omega)
      simp [daysIn]
      omega

/-- A day is split into a month that there is and a day in it. -/
theorem splitMonths_lt (ls : List Nat) (n : Nat) (h : n < daysIn ls) :
    ∃ l, ls[(splitMonths ls n).1]? = some l ∧ (splitMonths ls n).2 < l := by
  induction ls generalizing n with
  | nil => simp [daysIn] at h
  | cons l ls ih =>
    unfold splitMonths
    split
    · exact ⟨l, by simp, by assumption⟩
    · simpa using ih (n - l) (by simp [daysIn] at h; omega)

/-- Splitting undoes counting up. -/
theorem splitMonths_daysIn_take (ls : List Nat) (i k l : Nat) (hl : ls[i]? = some l)
    (hk : k < l) : splitMonths ls (daysIn (ls.take i) + k) = (i, k) := by
  induction ls generalizing i with
  | nil => simp at hl
  | cons a ls ih =>
    cases i with
    | zero =>
      simp at hl
      subst hl
      simp [splitMonths, daysIn, hk]
    | succ i =>
      simp at hl
      have e : daysIn ((a :: ls).take (i + 1)) + k = a + (daysIn (ls.take i) + k) := by
        simp [daysIn]
        omega
      rw [e, splitMonths, if_neg (by omega), Nat.add_sub_cancel_left, ih i hl]

theorem daysIn_monthLengths (leap : Bool) :
    daysIn (monthLengths leap) = if leap then 366 else 365 := by
  cases leap <;> rfl

theorem daysIn_take_lt (ls : List Nat) (i k l : Nat) (hl : ls[i]? = some l)
    (hk : k < l) : daysIn (ls.take i) + k < daysIn ls := by
  induction ls generalizing i with
  | nil => simp at hl
  | cons a ls ih =>
    cases i with
    | zero => simp [daysIn] at hl ⊢; omega
    | succ i =>
      simp at hl
      have := ih i hl
      simp [daysIn]
      omega

-- =========================================================== inverse

namespace Date

/-- The day within a year is one of those that the year has. -/
theorem dayOfYear_lt (n : Int) :
    (n - firstDayNumber (yearOfDay n)).toNat
      < daysIn (monthLengths (isLeapYear (yearOfDay n))) := by
  have h1 := yearOfDay_le n
  have h2 := lt_yearOfDay_succ n
  rw [firstDayNumber_succ] at h2
  rw [daysIn_monthLengths]
  split <;> simp_all <;> omega

/-- The date with a number has that number. -/
theorem number_ofNumber (n : Int) : (ofNumber n).number = n := by
  have h := daysIn_take_splitMonths _ _ (dayOfYear_lt n)
  have h1 := yearOfDay_le n
  unfold ofNumber number
  simp only [Nat.add_sub_cancel]
  omega

/-- Every number belongs to a date of the calendar. -/
theorem exists_ofNumber (n : Int) : (ofNumber n).exists? = true := by
  obtain ⟨l, hl, hk⟩ := splitMonths_lt _ _ (dayOfYear_lt n)
  unfold ofNumber exists? monthLength?
  simp only [Nat.add_sub_cancel]
  rw [if_neg (by omega), hl]
  simp
  omega

/-- A date of the calendar is the one with its number. -/
theorem ofNumber_number {d : Date} (h : d.exists? = true) : ofNumber d.number = d := by
  unfold exists? monthLength? at h
  by_cases hm : d.month = 0
  · simp [hm] at h
  · rw [if_neg hm] at h
    cases hl : (monthLengths (isLeapYear d.year))[d.month - 1]? with
    | none => simp [hl] at h
    | some l =>
      simp [hl] at h
      have hk : d.day - 1 < l := by omega
      have hlt := daysIn_take_lt _ _ _ _ hl hk
      rw [daysIn_monthLengths] at hlt
      have hy : yearOfDay d.number = d.year := by
        apply yearOfDay_eq
        · unfold number; omega
        · rw [firstDayNumber_succ]
          unfold number
          cases hy : isLeapYear d.year <;>
            simp only [hy, Bool.false_eq_true, ↓reduceIte] at hlt ⊢ <;> omega
      have hs := splitMonths_daysIn_take _ _ _ _ hl hk
      unfold ofNumber
      simp only [hy]
      have e : (d.number - firstDayNumber d.year).toNat
          = daysIn ((monthLengths (isLeapYear d.year)).take (d.month - 1)) + (d.day - 1) := by
        unfold number; omega
      rw [e, hs]
      cases d
      simp_all
      omega

end Date

end EventAnalytics.Time
