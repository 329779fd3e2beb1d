/-
Reading back what was written.

An instant has many interchange forms: the date and the time of day may be
those of any place whose offset is named, three characters may stand
between them, and a fraction may have more digits than it needs.
`Instant.IsForm` says which texts these are, without reading any, and
`readStrict_form` that each of them is read as the instant it is a form of.

The form that this library writes is one of them when the year has four
digits, and is refused at its first character, a sign, when it has not:
so there it is the year alone that decides (`readStrict_offsetText`).

A form is a timestamp of what the clocks show, and its parts name the
instant (`isTimestamp_form`, `Instant.names_partsAt`); the parts named by
the calendar are within their bounds since the date of an instant exists.
-/
import EventAnalytics.Proofs.Time.Timestamp
import EventAnalytics.Time.Written

namespace EventAnalytics.Time

open Text (isDigit padded startsPlain)

-- ========================================================== fractions

/-- How a fraction of a second is written that has some nanoseconds: by any
number of digits that stand for just these, or, when there are none, not at
all. -/
inductive IsFraction (n : Nat) : List Char → Prop
  | missing (h : n = 0) : IsFraction n []
  | digits {ds : List Char} (hne : ds ≠ []) (hds : ds.all isDigit = true)
    (hvalue : Text.digitsValue ds * 10 ^ 9 = n * 10 ^ ds.length) : IsFraction n ('.' :: ds)

/-- Nanoseconds are told by the first nine digits: those behind them are
naught. -/
theorem IsFraction.spells {n : Nat} {fraction : List Char} (h : IsFraction n fraction) :
    SpellsNanos n fraction := by
  cases h with
  | missing hzero =>
    rw [hzero]
    exact .none
  | @digits ds hne hds hvalue =>
    suffices hcount : Text.digitsValue (ds.take 9) * 10 ^ (9 - ds.length) = n by
      rw [← hcount]
      exact .digits hne hds
    by_cases hfew : ds.length ≤ 9
    · rw [List.take_of_length_le hfew]
      apply Nat.eq_of_mul_eq_mul_right (Nat.pow_pos (by decide : 0 < 10) (n := ds.length))
      rw [Nat.mul_assoc, ← Nat.pow_add, Nat.sub_add_cancel hfew, hvalue]
    -- Digits behind the ninth make less than one of the unit in which the
    -- first nine count.
    · have hback : (ds.drop 9).all isDigit = true := by
        rw [List.all_eq_true] at hds ⊢
        exact fun c hc => hds c (List.mem_of_mem_drop hc)
      have hlt := Text.digitsValue_lt hback
      have hlength : ds.length = 9 + (ds.drop 9).length := by
        rw [List.length_drop]
        omega
      have hsplit : Text.digitsValue ds
          = Text.digitsValue (ds.take 9) * 10 ^ (ds.drop 9).length + Text.digitsValue (ds.drop 9) := by
        rw [← Text.digitsValue_append_pow, List.take_append_drop]
      have hnone : 9 - ds.length = 0 := by omega
      rw [hsplit, hlength, Nat.add_comm 9, Nat.pow_add, ← Nat.mul_assoc] at hvalue
      have hsum := Nat.eq_of_mul_eq_mul_right (by decide) hvalue
      rw [hnone, Nat.pow_zero, Nat.mul_one]
      have hdiv := congrArg (· / 10 ^ (ds.drop 9).length) hsum
      rwa [Nat.mul_comm, Nat.mul_add_div (Nat.pow_pos (by decide)), Nat.div_eq_of_lt hlt,
        Nat.add_zero, Nat.mul_div_cancel _ (Nat.pow_pos (by decide))] at hdiv

/-- The groups of digits that are written are a form of the fraction. -/
theorem isFraction_fractionText (t : Instant) : IsFraction t.shownNanos t.fractionText := by
  have hlt : t.shownNanos < 1000000000 := Nat.mod_lt _ (by decide)
  have hpadded : ∀ {w k : Nat}, 0 < w → k < 10 ^ w → k * 10 ^ 9 = t.shownNanos * 10 ^ w →
      IsFraction t.shownNanos ('.' :: padded w k) := by
    intro w k hw hk hvalue
    have hlength := Text.length_padded hw hk
    refine .digits ?_ (Text.all_isDigit_padded w k) ?_
    · rw [← List.length_pos_iff, hlength]
      exact hw
    · rw [Text.digitsValue_padded, hlength]
      exact hvalue
  unfold Instant.fractionText
  simp only
  split
  · next hzero => exact .missing hzero
  · split
    · exact hpadded (by decide) (by omega) (by omega)
    · split
      · exact hpadded (by decide) (by omega) (by omega)
      · exact hpadded (by decide) (by omega) (by omega)

/-- A fraction is read back from its groups of digits. -/
theorem readFraction_fractionText (t : Instant) {cs : List Char} (hcs : startsPlain cs = true)
    (hdot : cs.head? ≠ some '.') :
    readFraction (t.fractionText ++ cs) = .ok (t.shownNanos, cs) :=
  readFraction_of_spells (isFraction_fractionText t).spells hcs hdot

-- ============================================================ offsets

/-- How the seconds are written by which the clocks of a place are ahead of
universal time. -/
inductive IsOffset : Int → List Char → Prop
  | zulu {c : Char} (hc : c = 'Z' ∨ c = 'z') : IsOffset 0 [c]
  | east {hours minutes : Nat} (hhours : hours ≤ 23) (hminutes : minutes ≤ 59) :
    IsOffset (hours * 3600 + minutes * 60 : Nat) ('+' :: (padded 2 hours ++ ':' :: padded 2 minutes))
  | west {hours minutes : Nat} (hhours : hours ≤ 23) (hminutes : minutes ≤ 59) :
    IsOffset (-(hours * 3600 + minutes * 60 : Nat))
      ('-' :: (padded 2 hours ++ ':' :: padded 2 minutes))

theorem IsOffset.spells {offset : Int} {zone : List Char} (h : IsOffset offset zone) :
    SpellsOffset offset zone := by
  cases h with
  | zulu hc => exact .zulu (by simpa using hc)
  | east hhours hminutes => exact .east hhours hminutes
  | west hhours hminutes => exact .west (by simp) hhours hminutes

-- ============================================================== bounds

theorem Instant.secondOfDay_lt (t : Instant) : t.secondOfDay < 86400 := by
  unfold Instant.secondOfDay
  omega

/-- The leap second comes after the 59th. -/
theorem Instant.shownSecond_cases (t : Instant) :
    (t.isLeap = true ∧ t.shownSecond = 60 ∧ t.secondOfDay % 60 = 59)
      ∨ (t.isLeap = false ∧ t.shownSecond = t.secondOfDay % 60) := by
  unfold Instant.shownSecond
  cases hleap : t.isLeap with
  | false => exact .inr ⟨rfl, rfl⟩
  | true =>
    have hlast := t.leap_at_59 (by simpa [Instant.isLeap] using hleap)
    have hsecond : t.secondOfDay % 60 = 59 := by
      unfold Instant.secondOfDay
      omega
    refine .inl ⟨rfl, ?_, hsecond⟩
    rw [hsecond]
    rfl

/-- The numbers that an instant is written with. -/
theorem Instant.shown_bounds (t : Instant) :
    (1 ≤ t.date.month ∧ t.date.month ≤ 12) ∧ (1 ≤ t.date.day ∧ t.date.day ≤ 31)
      ∧ t.secondOfDay / 3600 ≤ 23 ∧ t.secondOfDay / 60 % 60 ≤ 59 ∧ t.shownSecond ≤ 60 := by
  obtain ⟨hmonth, hday⟩ := Date.bounds_of_exists (d := t.date) (Date.exists_ofNumber t.day)
  have hlt := t.secondOfDay_lt
  refine ⟨hmonth, hday, ?_, ?_, ?_⟩
  · omega
  · omega
  · rcases t.shownSecond_cases with ⟨-, h, -⟩ | ⟨-, h⟩ <;> omega

-- ============================================================ instants

/-- The parts that an instant is written in. -/
def Instant.parts (t : Instant) : Parts where
  year := t.date.year
  month := t.date.month
  day := t.date.day
  hour := t.secondOfDay / 3600
  minute := t.secondOfDay / 60 % 60
  second := t.shownSecond
  nanos := t.shownNanos
  offset := 0

/-- What clocks show that are ahead of universal time names the instant, if
the offset is named with it. -/
theorem Instant.names_partsAt {t shown : Instant} {offset : Int}
    (hseconds : shown.seconds = t.seconds + offset) (hnanos : shown.nanos = t.nanos) :
    ({ shown.parts with offset := offset } : Parts).Names t := by
  have hnumber : shown.date.number = shown.day := Date.number_ofNumber shown.day
  have hlt := shown.secondOfDay_lt
  have hsum : shown.seconds = shown.day * 86400 + shown.secondOfDay := by
    unfold Instant.day Instant.secondOfDay
    omega
  refine ⟨?_, ?_⟩
  · show t.seconds = shown.date.number * 86400 + (shown.secondOfDay / 3600 * 3600
      + shown.secondOfDay / 60 % 60 * 60 + min shown.shownSecond 59 : Nat) - offset
    rw [hnumber]
    rcases shown.shownSecond_cases with ⟨-, hsecond, h59⟩ | ⟨-, hsecond⟩ <;> omega
  · show t.nanos = shown.shownNanos + if shown.shownSecond = 60 then nanosPerSecond else 0
    rw [← hnanos]
    rcases shown.shownSecond_cases with ⟨hleap, hsecond, -⟩ | ⟨hleap, hsecond⟩
    · have hlow : nanosPerSecond ≤ shown.nanos := by simpa [Instant.isLeap] using hleap
      have hhigh := shown.nanos_lt
      rw [if_pos hsecond]
      unfold Instant.shownNanos nanosPerSecond at *
      omega
    · have hhigh : shown.nanos < nanosPerSecond := by simpa [Instant.isLeap] using hleap
      rw [if_neg (by omega), Nat.add_zero]
      exact (Nat.mod_eq_of_lt hhigh).symm

/-- The parts of an instant name it. -/
theorem Instant.instant_parts (t : Instant) : t.parts.instant = .ok t := by
  have hnames : t.parts.Names t := Instant.names_partsAt (Int.add_zero t.seconds).symm rfl
  exact hnames.instant (Date.exists_ofNumber t.day) t.year_bounds t.shown_bounds.2.2.2.2
    (Nat.zero_le 86340)

-- ========================================================= whole texts

/-- Whether a year is written with four digits and no sign. -/
def hasFourDigits (y : Int) : Bool := 0 ≤ y && y ≤ 9999

/-- The texts that are an interchange form of an instant. They give the date
and the time of day which clocks show that are ahead of universal time by an
offset, where the year must have four digits, and then the offset. What such
clocks show is itself given as an instant, the one at which clocks of
universal time show it. -/
inductive Instant.IsForm (t : Instant) : List Char → Prop
  | shown {shown : Instant} {offset : Int} {separator : Char} {fraction zone : List Char}
    (hseconds : shown.seconds = t.seconds + offset) (hnanos : shown.nanos = t.nanos)
    (hyear : hasFourDigits shown.date.year = true) (hseparator : separator ∈ ['T', 't', ' '])
    (hfraction : IsFraction t.shownNanos fraction) (hzone : IsOffset offset zone) :
    IsForm t (shown.date.text ++ separator :: (shown.clockText ++ (fraction ++ zone)))

/-- Both forms that are written are forms of an instant whose year has four
digits. -/
theorem Instant.isForm_written {t : Instant} (hyear : hasFourDigits t.date.year = true) :
    t.IsForm t.offsetText.toList ∧ t.IsForm t.zuluText.toList := by
  have hform : ∀ {zone : List Char}, IsOffset 0 zone → t.IsForm (t.localChars ++ zone) := by
    intro zone hzone
    have hshown := IsForm.shown (Int.add_zero t.seconds).symm rfl hyear List.mem_cons_self
      (isFraction_fractionText t) hzone
    unfold localChars
    simpa only [List.append_assoc, List.cons_append] using hshown
  have heast : IsOffset 0 "+00:00".toList := by
    have hnone := IsOffset.east (Nat.zero_le 23) (Nat.zero_le 59)
    have hzeros : padded 2 0 = ['0', '0'] := by decide +kernel
    rw [hzeros] at hnone
    exact hnone
  have hoffset := hform heast
  have hzulu := hform (.zulu (.inl rfl))
  rw [← String.toList_ofList (l := t.localChars ++ _)] at hoffset hzulu
  exact ⟨hoffset, hzulu⟩

/-- A form is a timestamp of what the clocks show. -/
theorem isTimestamp_form {shown : Instant} {offset : Int} {nanos : Nat} {separator : Char}
    {fraction zone : List Char} (hyear : hasFourDigits shown.date.year = true)
    (hseparator : separator ∈ ['T', 't', ' ']) (hfraction : IsFraction nanos fraction)
    (hzone : IsOffset offset zone) :
    ({ shown.parts with nanos := nanos, offset := offset } : Parts).IsTimestamp
      (shown.date.text ++ separator :: (shown.clockText ++ (fraction ++ zone))) := by
  obtain ⟨hlow, hhigh⟩ : 0 ≤ shown.date.year ∧ shown.date.year ≤ 9999 := by
    simpa [hasFourDigits] using hyear
  obtain ⟨-, -, hhour, hminute, hsecond⟩ := shown.shown_bounds
  have hyearAbs : (shown.date.year.natAbs : Int) = shown.date.year := Int.natAbs_of_nonneg hlow
  have hexists : shown.date.exists? = true := Date.exists_ofNumber shown.day
  have hdate : (⟨(shown.date.year.natAbs : Int), shown.date.month, shown.date.day⟩ : Date).exists?
      = true := by
    rw [hyearAbs]
    exact hexists
  have htimestamp := Parts.IsTimestamp.written (by omega) hdate hhour hminute hsecond hseparator
    hfraction.spells hzone.spells
  rw [hyearAbs] at htimestamp
  unfold Instant.clockText Date.text yearText
  rw [if_pos ⟨hlow, hhigh⟩]
  simp only [List.append_assoc, List.cons_append]
  exact htimestamp

/-- An instant is read back from all of its interchange forms. -/
theorem readStrict_form {t : Instant} {cs : List Char} (h : t.IsForm cs) :
    readStrict (String.ofList cs) = .ok t := by
  obtain @⟨shown, offset, separator, fraction, zone, hseconds, hnanos, hyear, hseparator, hfraction,
    hzone⟩ := h
  have hsame : t.shownNanos = shown.shownNanos := congrArg (· % nanosPerSecond) hnanos.symm
  rw [hsame] at hfraction
  refine readStrict_eq_ok_iff.2 ⟨_, ?_, Instant.names_partsAt hseconds hnanos⟩
  rw [String.toList_ofList]
  exact isTimestamp_form hyear hseparator hfraction hzone

/-- A sign in front is no digit of a year. -/
theorem readStrictParts_of_sign {c : Char} {cs : List Char} (hc : isDigit c = false)
    (hlength : 4 ≤ (c :: cs).length) : readStrictParts (c :: cs) = .error .invalid := by
  have hbytes : ¬ byteLength (c :: cs) < 4 := by
    have := length_le_byteLength (c :: cs)
    omega
  have hnumber : readNumber 4 (some 4) (c :: cs) = .error .invalid := by
    have hwindow : ((c :: cs).take 4).takeWhile isDigit = [] := by
      simp [hc]
    unfold readNumber
    simp only [hwindow]
    rw [if_neg hbytes]
    rfl
  unfold readStrictParts
  rw [hnumber]
  rfl

/-- An instant is read back from its interchange form exactly when its
year has four digits. -/
theorem readStrict_offsetText (t : Instant) :
    readStrict t.offsetText
      = if hasFourDigits t.date.year then .ok t else .error .invalid := by
  cases hyear : hasFourDigits t.date.year with
  | true =>
    have hform := readStrict_form (Instant.isForm_written hyear).1
    rwa [String.ofList_toList] at hform
  | false =>
    unfold readStrict Instant.offsetText
    rw [String.toList_ofList]
    have hout : ¬ (0 ≤ t.date.year ∧ t.date.year ≤ 9999) := by
      simpa [hasFourDigits] using hyear
    obtain ⟨c, cs, hform, hc⟩ : ∃ c cs, t.localChars ++ "+00:00".toList = c :: cs
        ∧ isDigit c = false := by
      unfold Instant.localChars Date.text yearText
      rw [if_neg hout]
      refine ⟨_, _, rfl, ?_⟩
      split <;> rfl
    have hlength : 4 ≤ (t.localChars ++ "+00:00".toList).length := by
      rw [List.length_append]
      exact Nat.le_trans (by decide) (Nat.le_add_left 6 _)
    rw [hform] at hlength ⊢
    rw [readStrictParts_of_sign hc hlength]
    rfl

end EventAnalytics.Time
