/-
Explicit ranges come back from their text.

A bound is an interchange form of an instant, or the date of a day; the
date stands for the first second of the day where the range starts, and
for its last whole second where it ends (`TimeRange.IsBound`). A bound is
tried as an instant first, so a date has to be shown to be no instant: it
ends where the time of day would begin, or it starts with a sign. Both
kinds have no comma and no white at their ends, so the two bounds of a
text are what they were before white was put around them and a comma
between them (`TimeRange.IsPair`).

The range of such a text is the one between its bounds, if these come in
order (`ofText_pair`). The present has no part in it.
-/
import EventAnalytics.Proofs.Time.Literal
import EventAnalytics.Proofs.Time.Window
import EventAnalytics.Proofs.Time.Written

namespace EventAnalytics

namespace Time

open Text (isDigit padded isTight_of_digits not_mem_padded)

-- ===================================================== written bounds

/-- A number has no blanks at its ends, however it is padded. -/
theorem isTight_padded (w n : Nat) : Text.IsTight (padded w n) :=
  isTight_of_digits (List.append_ne_nil_of_right_ne_nil _ (Text.numeral_ne_nil n))
    (Text.all_isDigit_padded w n)

theorem isTight_yearText (y : Int) : Text.IsTight (yearText y) := by
  unfold yearText
  split
  · exact isTight_padded 4 y.natAbs
  · obtain ⟨r, c, hlast, hc⟩ := (isTight_padded 4 y.natAbs).last
    refine ⟨⟨_, _, rfl, ?_⟩, ⟨_ :: r, c, congrArg _ hlast, hc⟩⟩
    split <;> rfl

theorem Date.isTight_text (d : Date) : Text.IsTight d.text := by
  have hends := (isTight_yearText d.year).append ('-' :: (padded 2 d.month ++ ['-']))
    (isTight_padded 2 d.day)
  unfold text
  simpa only [List.append_assoc, List.cons_append, List.nil_append] using hends

theorem Date.comma_not_mem_text (d : Date) : ',' ∉ d.text :=
  Date.not_mem_text rfl (by decide) (by decide) d

theorem IsOffset.isTight {offset : Int} {zone : List Char} (h : IsOffset offset zone) :
    Text.IsTight zone ∧ ',' ∉ zone := by
  have hdigits : ∀ {sign : Char} {hours minutes : Nat}, Text.isBlank sign = false → ',' ≠ sign →
      Text.IsTight (sign :: (padded 2 hours ++ ':' :: padded 2 minutes))
        ∧ ',' ∉ sign :: (padded 2 hours ++ ':' :: padded 2 minutes) := by
    intro sign hours minutes hsign hcomma
    have hends := (isTight_padded 2 hours).append [':'] (isTight_padded 2 minutes)
    obtain ⟨r, c, hlast, hc⟩ := hends.last
    refine ⟨⟨⟨_, _, rfl, hsign⟩, ⟨sign :: r, c, congrArg _ hlast, hc⟩⟩, ?_⟩
    simp only [List.mem_cons, List.mem_append, not_or]
    exact ⟨hcomma, not_mem_padded rfl 2 hours, by decide, not_mem_padded rfl 2 minutes⟩
  cases h with
  | @zulu c hc =>
    have hwhite : Text.isBlank c = false ∧ ',' ∉ [c] := by
      rcases hc with rfl | rfl <;> decide
    exact ⟨⟨⟨c, [], rfl, hwhite.1⟩, ⟨[], c, rfl, hwhite.1⟩⟩, hwhite.2⟩
  | east => exact hdigits rfl (by decide)
  | west => exact hdigits rfl (by decide)

theorem IsFraction.comma_not_mem {n : Nat} {fraction : List Char} (h : IsFraction n fraction) :
    ',' ∉ fraction := by
  cases h with
  | missing => exact List.not_mem_nil
  | digits hne hds =>
    rw [List.mem_cons, not_or]
    exact ⟨by decide, fun hm => nomatch List.all_eq_true.1 hds _ hm⟩

/-- An interchange form has a blank inside at most, and no comma. -/
theorem Instant.IsForm.isTight {t : Instant} {cs : List Char} (h : t.IsForm cs) :
    Text.IsTight cs ∧ ',' ∉ cs := by
  obtain @⟨shown, offset, separator, fraction, zone, -, -, -, hseparator, hfraction, hzone⟩ := h
  obtain ⟨hends, hcomma⟩ := hzone.isTight
  constructor
  · have htight := shown.date.isTight_text.append (separator :: (shown.clockText ++ fraction)) hends
    simpa only [List.append_assoc, List.cons_append] using htight
  · have hbetween : ',' ≠ separator := by
      rintro rfl
      exact absurd hseparator (by decide)
    unfold clockText
    simp only [List.mem_append, List.mem_cons, not_or]
    exact ⟨shown.date.comma_not_mem_text, hbetween, ⟨⟨not_mem_padded rfl _ _, by decide,
      not_mem_padded rfl _ _⟩, by decide, not_mem_padded rfl _ _⟩, hfraction.comma_not_mem, hcomma⟩

-- ============================================================== dates

/-- Whether a date exists, in a year of the calendar. -/
def Date.IsSupported (d : Date) : Prop :=
  d.exists? = true ∧ -262143 ≤ d.year ∧ d.year ≤ 262142

instance (d : Date) : Decidable d.IsSupported :=
  inferInstanceAs (Decidable (_ ∧ _ ∧ _))

/-- Every second of a date of the calendar is an instant. -/
theorem Date.IsSupported.exists_second {d : Date} (h : d.IsSupported) (second : Nat)
    (hsecond : second < 86400) :
    ∃ t : Instant, t.date = d ∧ t.day = d.number ∧ t.secondOfDay = second ∧ t.nanos = 0 := by
  have hday : (d.number * 86400 + second) / 86400 = d.number := by omega
  have hin : InCalendar (d.number * 86400 + second) := by
    unfold InCalendar
    rw [hday, Date.ofNumber_number h.1]
    exact h.2
  obtain ⟨hfirst, hlast⟩ := inCalendar_iff.1 hin
  obtain ⟨t, -, hseconds, hnanos⟩ := @Instant.of?_of_le _ 0 hfirst hlast (by decide)
  have hnumber : t.day = d.number := by
    unfold Instant.day
    rw [hseconds, hday]
  refine ⟨t, ?_, hnumber, ?_, hnanos⟩
  · unfold Instant.date
    rw [hnumber, Date.ofNumber_number h.1]
  · unfold Instant.secondOfDay
    omega

/-- A date is no instant, since its time of day is missing. -/
theorem readStrict_date (t : Instant) :
    ∃ fault, readStrict (String.ofList t.date.text) = .error fault := by
  obtain ⟨⟨hmonth1, hmonth2⟩, ⟨hday1, hday2⟩, -⟩ := t.shown_bounds
  unfold readStrict
  rw [String.toList_ofList]
  by_cases hyear : 0 ≤ t.date.year ∧ t.date.year ≤ 9999
  · have hnumber : ∀ cs, readNumber 4 (some 4) (padded 4 t.date.year.natAbs ++ cs)
        = .ok (t.date.year.natAbs, cs) :=
      readNumber_padded (by decide) (by omega)
    have hmonth : ∀ cs, readTwo (padded 2 t.date.month ++ cs) = .ok (t.date.month, cs) :=
      readTwo_padded (Nat.lt_of_le_of_lt hmonth2 (by decide))
    have hday := readTwo_padded (n := t.date.day) (Nat.lt_of_le_of_lt hday2 (by decide)) []
    rw [List.append_nil] at hday
    -- all three numbers are read as those of an instant; what ends is the text
    have hparts : readStrictParts t.date.text = .error .tooShort := by
      unfold Date.text yearText
      rw [if_pos hyear]
      simp only [List.append_assoc, List.cons_append]
      unfold readStrictParts
      simp only [hnumber, hmonth, hday, readChar_cons, within_ok hmonth1 hmonth2,
        within_ok hday1 hday2, readSeparator, bind, Except.bind]
    rw [hparts]
    exact ⟨_, rfl⟩
  · -- every other year is written with a sign, and no instant starts with one
    obtain ⟨c, cs, hform, hc⟩ : ∃ c cs, yearText t.date.year = c :: cs ∧ isDigit c = false := by
      unfold yearText
      rw [if_neg hyear]
      refine ⟨_, _, rfl, ?_⟩
      split <;> rfl
    have hlength : 4 ≤ (c :: (cs ++ '-' :: padded 2 t.date.month
        ++ '-' :: padded 2 t.date.day)).length := by
      have hmonth := Text.length_padded (n := t.date.month) (w := 2) (by decide) (by omega)
      simp only [List.length_cons, List.length_append]
      omega
    have hparts : readStrictParts t.date.text = .error .invalid := by
      unfold Date.text
      rw [hform]
      exact readStrictParts_of_sign hc hlength
    rw [hparts]
    exact ⟨_, rfl⟩

/-- A date is read back as its day, also where the year has a sign. -/
theorem readDay_date (t : Instant) : readDay (String.ofList t.date.text) = .ok t.day := by
  obtain ⟨⟨hmonth1, hmonth2⟩, ⟨hday1, hday2⟩, -⟩ := t.shown_bounds
  have hmonth : ∀ cs, readShort (padded 2 t.date.month ++ cs) = .ok (t.date.month, cs) :=
    readShort_padded (Nat.lt_of_le_of_lt hmonth2 (by decide))
  have hday := readShort_padded (n := t.date.day) (Nat.lt_of_le_of_lt hday2 (by decide)) []
  rw [List.append_nil] at hday
  have hnumber : dayNumber? t.date.year t.date.month t.date.day = some t.date.number :=
    Date.dayNumber?_eq_some (Date.exists_ofNumber t.day) t.year_bounds
  rw [show t.date.number = t.day from Date.number_ofNumber t.day] at hnumber
  unfold readDay Date.text
  rw [String.toList_ofList]
  simp only [List.append_assoc, List.cons_append, readYear_yearText, hmonth, hday, readChar_cons,
    within_ok hmonth1 hmonth2, within_ok hday1 hday2, hnumber, bind, Except.bind]
  rfl

end Time

open Time (Instant Date hasFourDigits)

namespace TimeRange

-- ============================================================= bounds

/-- How the bound of a range is written: as an interchange form, or as a
date, for the first second of its day or, at the end of the range, for the
last whole one. -/
inductive IsBound (atEnd : Bool) (t : Instant) : List Char → Prop
  | instant {cs : List Char} (h : t.IsForm cs) : IsBound atEnd t cs
  | date (hsecond : t.secondOfDay = if atEnd then 86399 else 0) (hnanos : t.nanos = 0) :
    IsBound atEnd t t.date.text

/-- A bound has no blanks at its ends and no comma in it. -/
theorem IsBound.isTight {atEnd : Bool} {t : Instant} {cs : List Char} (h : IsBound atEnd t cs) :
    Text.IsTight cs ∧ ',' ∉ cs := by
  cases h with
  | instant h => exact h.isTight
  | date => exact ⟨t.date.isTight_text, t.date.comma_not_mem_text⟩

/-- A bound is read back as its instant. -/
theorem bound_of_isBound {atEnd : Bool} {t : Instant} {cs : List Char} (h : IsBound atEnd t cs) :
    bound atEnd (String.ofList cs) = .ok t := by
  cases h with
  | instant h =>
    unfold bound
    rw [Time.readStrict_form h]
  | date hsecond hnanos =>
    obtain ⟨fault, hfault⟩ := Time.readStrict_date t
    have hseconds : t.seconds = t.day * 86400 + (if atEnd then 86399 else 0 : Nat) := by
      rw [← hsecond]
      unfold Instant.day Instant.secondOfDay
      omega
    have hof := Instant.of?_fields t
    rw [hseconds, hnanos] at hof
    unfold bound
    rw [hfault, Time.readDay_date]
    cases atEnd with
    | false =>
      have hstart : Instant.startOfDay? t.day = some t := by
        simpa [Instant.startOfDay?] using hof
      simp only [Bool.false_eq_true, if_false, hstart]
    | true =>
      have hend : Instant.endOfDay? t.day = some t := hof
      simp only [if_true, hend]

-- ============================================================== pairs

/-- Whether a text is made of two others, with a comma between them and
white around both. -/
def IsPair (a b : List Char) (text : String) : Prop :=
  ∃ before after before' after', (∀ white ∈ [before, after, before', after'],
      white.all Text.isBlank = true)
    ∧ text.toList = before ++ (a ++ after) ++ ',' :: (before' ++ (b ++ after'))

/-- A text is cut at its first comma. -/
theorem bounds?_of_first {a b : List Char} (h : ',' ∉ a) :
    bounds? (String.ofList (a ++ ',' :: b)) = some (String.ofList a, String.ofList b) := by
  have hfront : ∀ c ∈ a, decide (c ≠ ',') = true := by
    intro c hc
    exact decide_eq_true fun hcomma => h (hcomma ▸ hc)
  unfold bounds?
  simp only [String.toList_ofList, List.dropWhile_append_of_pos hfront,
    List.takeWhile_append_of_pos hfront]
  simp

/-- The two parts of a pair, out of the white around them. -/
theorem bounds?_of_isPair {a b : List Char} {text : String} (h : IsPair a b text)
    (ha : Text.IsTight a ∧ ',' ∉ a) (hb : Text.IsTight b) :
    ∃ first second, bounds? (Text.trimmed text) = some (first, second)
      ∧ Text.trimmed first = String.ofList a ∧ Text.trimmed second = String.ofList b := by
  obtain ⟨before, after, before', after', hwhite, htext⟩ := h
  simp only [List.mem_cons, List.not_mem_nil, or_false, forall_eq_or_imp, forall_eq] at hwhite
  obtain ⟨hbefore, hafter, hbefore', hafter'⟩ := hwhite
  -- The comma between the two is the first one, as the first part has none.
  have hcomma : ',' ∉ a ++ after := by
    rw [List.mem_append]
    rintro (hm | hm)
    · exact ha.2 hm
    · exact absurd (List.all_eq_true.1 hafter _ hm) (by decide)
  have htrimmed : Text.trimmed text = String.ofList ((a ++ after) ++ ',' :: (before' ++ b)) := by
    have hends := ha.1.append (after ++ ',' :: before') hb
    have hform : text.toList
        = before ++ ((a ++ (after ++ ',' :: before' ++ b)) ++ after') := by
      rw [htext]
      simp only [List.append_assoc, List.cons_append]
    unfold Text.trimmed
    rw [hform, Text.trim_surrounded hbefore hafter' hends]
    simp only [List.append_assoc, List.cons_append]
  refine ⟨_, _, htrimmed ▸ bounds?_of_first hcomma, ?_, ?_⟩
  · have hfirst : Text.trim ([] ++ (a ++ after)) = a := Text.trim_surrounded rfl hafter ha.1
    unfold Text.trimmed
    rw [String.toList_ofList]
    exact congrArg String.ofList hfirst
  · have hsecond : Text.trim (before' ++ (b ++ [])) = b := Text.trim_surrounded hbefore' rfl hb
    rw [List.append_nil] at hsecond
    unfold Text.trimmed
    rw [String.toList_ofList]
    exact congrArg String.ofList hsecond

/-- A pair of bounds names the range between them. -/
theorem ofText_pair {a b : List Char} {s e : Instant} {text : String} (ha : IsBound false s a)
    (hb : IsBound true e b) (h : IsPair a b text) (now : Instant) :
    ofText text now = between s e := by
  obtain ⟨first, second, hbounds, hfirst, hsecond⟩ := bounds?_of_isPair h ha.isTight hb.isTight.1
  unfold ofText ofTrimmed
  rw [hbounds]
  simp only [hfirst, hsecond, bound_of_isBound ha, bound_of_isBound hb, bind, Except.bind]

/-- The dates of the calendar are bounds of both kinds. -/
theorem exists_bounds_of_isSupported {d : Date} (h : d.IsSupported) :
    (∃ t : Instant, IsBound false t d.text ∧ t.date = d ∧ t.day = d.number ∧ t.secondOfDay = 0
        ∧ t.nanos = 0)
      ∧ ∃ t : Instant, IsBound true t d.text ∧ t.date = d ∧ t.day = d.number
        ∧ t.secondOfDay = 86399 ∧ t.nanos = 0 := by
  constructor
  · obtain ⟨t, rfl, hday, hsecond, hnanos⟩ := h.exists_second 0 (by decide)
    exact ⟨t, .date hsecond hnanos, rfl, hday, hsecond, hnanos⟩
  · obtain ⟨t, rfl, hday, hsecond, hnanos⟩ := h.exists_second 86399 (by decide)
    exact ⟨t, .date hsecond hnanos, rfl, hday, hsecond, hnanos⟩

/-- A pair of dates names the whole days from the one to the other. -/
theorem ofText_dates {d d' : Date} (h : d.IsSupported) (h' : d'.IsSupported) {text : String}
    (hpair : IsPair d.text d'.text text) (now : Instant) :
    (d.number ≤ d'.number → ∃ r, ofText text now = .ok r
        ∧ (r.start.date = d ∧ r.start.secondOfDay = 0 ∧ r.start.nanos = 0)
        ∧ r.stop.date = d' ∧ r.stop.secondOfDay = 86399 ∧ r.stop.nanos = 0)
      ∧ (d'.number < d.number → ofText text now = .error .endBeforeStart) := by
  obtain ⟨s, hs, hdate, hday, hsecond, hnanos⟩ := (exists_bounds_of_isSupported h).1
  obtain ⟨e, he, hdate', hday', hsecond', hnanos'⟩ := (exists_bounds_of_isSupported h').2
  have horder : s ≤ e ↔ d.number ≤ d'.number := by
    rw [Instant.le_iff, ← hday, ← hday']
    unfold Instant.day
    unfold Instant.secondOfDay at hsecond hsecond'
    omega
  obtain ⟨hok, herror⟩ := between_cases s e
  rw [ofText_pair hs he hpair now]
  constructor
  · intro hle
    obtain ⟨r, hr, rfl, rfl⟩ := hok (horder.2 hle)
    exact ⟨r, hr, ⟨hdate, hsecond, hnanos⟩, hdate', hsecond', hnanos'⟩
  · intro hlt
    exact herror fun hle => Int.not_le.2 hlt (horder.1 hle)

end TimeRange

-- ============================================================= the law

/-- Two bounds with a comma between them and white around both, at any
moment.

The range is exactly the one between them if the start is not after the
end, and the error says so if it is. Instants whose year has four digits
are bounds in both forms that are written, and in all other interchange
forms; dates of the calendar are bounds too, for the first second of their
day or for its last whole one, so that two dates name all days from the one
to the other. No expression names a range that ends before it starts. -/
theorem explicit_ranges_come_back (now : Instant) :
    (∀ {a b : List Char} {s e : Instant} {text : String}, TimeRange.IsBound false s a →
        TimeRange.IsBound true e b → TimeRange.IsPair a b text →
        (s ≤ e → ∃ r, TimeRange.ofText text now = .ok r ∧ r.start = s ∧ r.stop = e)
        ∧ (¬s ≤ e → TimeRange.ofText text now = .error .endBeforeStart))
      ∧ (∀ (atEnd : Bool) (t : Instant),
        (∀ {cs : List Char}, t.IsForm cs → TimeRange.IsBound atEnd t cs)
        ∧ (hasFourDigits t.date.year = true →
          t.IsForm t.offsetText.toList ∧ t.IsForm t.zuluText.toList))
      ∧ (∀ {d d' : Date} {text : String}, d.IsSupported → d'.IsSupported →
        TimeRange.IsPair d.text d'.text text →
        (d.number ≤ d'.number → ∃ r, TimeRange.ofText text now = .ok r
          ∧ (r.start.date = d ∧ r.start.secondOfDay = 0 ∧ r.start.nanos = 0)
          ∧ r.stop.date = d' ∧ r.stop.secondOfDay = 86399 ∧ r.stop.nanos = 0)
        ∧ (d'.number < d.number → TimeRange.ofText text now = .error .endBeforeStart))
      ∧ (∀ {d : Date}, d.IsSupported →
        (∃ t : Instant, TimeRange.IsBound false t d.text ∧ t.date = d ∧ t.secondOfDay = 0
          ∧ t.nanos = 0)
        ∧ ∃ t : Instant, TimeRange.IsBound true t d.text ∧ t.date = d ∧ t.secondOfDay = 86399
          ∧ t.nanos = 0)
      ∧ ∀ {text : String} {r : TimeRange}, TimeRange.ofText text now = .ok r → r.start ≤ r.stop := by
  refine ⟨?_, ?_, ?_, ?_, ?_⟩
  · intro a b s e text ha hb hpair
    rw [TimeRange.ofText_pair ha hb hpair now]
    exact TimeRange.between_cases s e
  · exact fun atEnd t => ⟨.instant, fun hyear => Instant.isForm_written hyear⟩
  · exact fun h h' hpair => TimeRange.ofText_dates h h' hpair now
  · intro d h
    obtain ⟨⟨t, hstart, hdate, -, hsecond, hnanos⟩, t', hend, hdate', -, hsecond', hnanos'⟩ :=
      TimeRange.exists_bounds_of_isSupported h
    exact ⟨⟨t, hstart, hdate, hsecond, hnanos⟩, t', hend, hdate', hsecond', hnanos'⟩
  · exact fun {text r} _ => r.start_le

/-- Half a second into the leap second at the end of 2016. -/
def leapSecond : Instant :=
  (Instant.of? 1483228799 1500000000).getD .epoch

/-- What clocks show then that are two hours ahead. -/
def leapSecondAhead : Instant :=
  (Instant.of? 1483235999 1500000000).getD .epoch

/-- The last whole second of the first day of the year 10000. -/
def farDayEnd : Instant :=
  (Instant.of? 253402387199 0).getD .epoch

/-- From a leap second, named by clocks two hours ahead, to the end of a day
in a year of five digits; and two dates in the wrong order. -/
theorem leap_second_to_far_day :
    (TimeRange.IsBound false leapSecond "2017-01-01t01:59:60.5000+02:00".toList
        ∧ TimeRange.IsBound true farDayEnd "+10000-01-01".toList
        ∧ TimeRange.IsPair "2017-01-01t01:59:60.5000+02:00".toList "+10000-01-01".toList
          " 2017-01-01t01:59:60.5000+02:00\t,\n+10000-01-01"
        ∧ ∃ r, TimeRange.ofText " 2017-01-01t01:59:60.5000+02:00\t,\n+10000-01-01" Instant.epoch
            = .ok r ∧ r.start = leapSecond ∧ r.stop = farDayEnd)
      ∧ (Date.IsSupported ⟨-1, 3, 1⟩ ∧ Date.IsSupported ⟨-4, 2, 29⟩
        ∧ TimeRange.ofText "-0001-03-01,-0004-02-29" Instant.epoch = .error .endBeforeStart) := by
  have hstart : TimeRange.IsBound false leapSecond "2017-01-01t01:59:60.5000+02:00".toList := by
    have hform := @Instant.IsForm.shown leapSecond leapSecondAhead _ 't' ".5000".toList _
      (by decide) rfl (by decide +kernel) (by decide)
      (.digits (by decide) (by decide) (by decide +kernel))
      (@Time.IsOffset.east 2 0 (by decide) (by decide))
    have htext : leapSecondAhead.date.text ++ 't' :: (leapSecondAhead.clockText
        ++ (".5000".toList ++ '+' :: (Text.padded 2 2 ++ ':' :: Text.padded 2 0)))
          = "2017-01-01t01:59:60.5000+02:00".toList := by
      decide +kernel
    rw [htext] at hform
    exact .instant hform
  have hend : TimeRange.IsBound true farDayEnd "+10000-01-01".toList := by
    have htext : farDayEnd.date.text = "+10000-01-01".toList := by decide +kernel
    rw [← htext]
    exact .date (by decide) rfl
  have hpair : TimeRange.IsPair "2017-01-01t01:59:60.5000+02:00".toList "+10000-01-01".toList
      " 2017-01-01t01:59:60.5000+02:00\t,\n+10000-01-01" :=
    ⟨[' '], ['\t'], ['\n'], [], by decide, by decide +kernel⟩
  have hdate : Date.IsSupported ⟨-1, 3, 1⟩ := by decide
  have hdate' : Date.IsSupported ⟨-4, 2, 29⟩ := by decide
  have hdates : TimeRange.IsPair (Date.text ⟨-1, 3, 1⟩) (Date.text ⟨-4, 2, 29⟩)
      "-0001-03-01,-0004-02-29" := ⟨[], [], [], [], by decide, by decide +kernel⟩
  obtain ⟨hbounds, -, hreversed, -⟩ := explicit_ranges_come_back Instant.epoch
  exact ⟨⟨hstart, hend, hpair, (hbounds hstart hend hpair).1 (by decide)⟩, hdate, hdate',
    (hreversed hdate hdate' hdates).2 (by decide)⟩

end EventAnalytics
