/-
Ranges of whole days, up to the last whole second.

Today, yesterday, a number of days or weeks and two dates all ask for some
days in a row (`Days.IsAsked`). What is answered starts with the first
second of the first day and stops with the last whole second of the last
one (`Days.IsRange`). Instants have fractions of a second, and the fraction
that follows that second belongs to no range: an instant lies in the range
just when its date is one of the days, unless it lies behind the last whole
second of the last of them (`Days.IsRange.holds_iff`). Behind the last
whole second of yesterday it lies neither in yesterday nor in today.

Of the present two bounds read nothing (`ofText_of_comma`), and whatever is
no window of hours reads the date alone (`ofTrimmed_of_same_day`). The
latter is used here for a present inside of a leap second, which the
theorems on relative ranges leave out because of hours.
-/
import EventAnalytics.Proofs.Time.Explicit

namespace EventAnalytics

open Time (Instant Date)

-- ======================================================== the present

namespace Time.Instant

theorem date_number (t : Instant) : t.date.number = t.day := Date.number_ofNumber t.day

/-- Instants of one date are instants of one day. -/
theorem day_eq_of_date_eq {a b : Instant} (h : a.date = b.date) : a.day = b.day := by
  rw [← a.date_number, h, b.date_number]

theorem seconds_eq (t : Instant) : t.seconds = t.date.number * 86400 + t.secondOfDay := by
  rw [t.date_number]
  unfold day secondOfDay
  omega

/-- In every second there is an instant outside of leap seconds. -/
theorem exists_plain (t : Instant) : ∃ p : Instant, p.isLeap = false ∧ p.day = t.day := by
  obtain ⟨p, -, hseconds, hnanos⟩ := @of?_of_le t.seconds 0 t.first_le t.le_last (by decide)
  refine ⟨p, ?_, congrArg (· / 86400) hseconds⟩
  unfold isLeap
  rw [hnanos]
  rfl

end Time.Instant

namespace TimeRange

/-- Whether an expression without blanks at its ends is a window of hours
that is read. -/
def IsHourWindow (s : String) : Prop :=
  ∃ k : Nat, (k : Int) ≤ Window.maxCount ∧ Relative.Spells s.toList (.hours k)

theorem exists_bounds?_of_comma {s : String} (h : ',' ∈ s.toList) : ∃ p, bounds? s = some p := by
  unfold bounds?
  simp only
  cases hrest : s.toList.dropWhile (· ≠ ',') with
  | cons c r => exact ⟨_, rfl⟩
  | nil =>
    have hnone := List.all_eq_true.1 (Text.dropWhile_eq_nil_iff_all.1 hrest) _ h
    simp at hnone

/-- Two bounds are the same at every moment. -/
theorem ofText_of_comma {s : String} (h : ',' ∈ s.toList) (a b : Instant) :
    ofText s a = ofText s b := by
  obtain ⟨p, hp⟩ := exists_bounds?_of_comma ((Text.mem_trimmed_iff (by decide)).2 h)
  unfold ofText ofTrimmed
  rw [hp]

/-- A window is read as hours only if it is an hour window. -/
theorem isHourWindow_of_ofText? {s : String} {w : Window} (h : Window.ofText? s = some w)
    (hunit : w.unit = .hours) : IsHourWindow s := by
  obtain ⟨ds, c, k, hs, -, hcount, rfl, -, hmost⟩ := Window.exists_of_ofText? h
  exact ⟨k, hmost, ds, c, (Window.unitOf_eq_iff c).1.1 hunit, hs, hcount⟩

/-- Only windows of hours read more of the present than its day. -/
theorem ofTrimmed_of_same_day {s : String} {a b : Instant} (hday : a.day = b.day)
    (hhours : ¬IsHourWindow s) : ofTrimmed s a = ofTrimmed s b := by
  unfold ofTrimmed
  rw [hday]
  cases bounds? s with
  | some p => rfl
  | none =>
    cases hread : Window.ofText? s with
    | none => rfl
    | some w =>
      have hwindow : ofWindow s w a = ofWindow s w b := by
        unfold ofWindow
        rw [hday]
        cases hunit : w.unit with
        | hours => exact absurd (isHourWindow_of_ofText? hread hunit) hhours
        | days | weeks | other => rfl
      simp only [hwindow]

end TimeRange

-- ===================================================== days in a row

/-- Some days in a row, by the numbers of the first and the last. -/
structure Days where
  first : Int
  last : Int
  deriving DecidableEq, Repr

/-- The days that are asked for, counted from the present. Hours are none. -/
def Relative.days? (now : Instant) : Relative → Option Days
  | today => some ⟨now.date.number, now.date.number⟩
  | yesterday => some ⟨now.date.number - 1, now.date.number - 1⟩
  | hours _ => none
  | days k => some ⟨now.date.number - (k - 1), now.date.number⟩
  | weeks k => some ⟨now.date.number - (7 * k - 1), now.date.number⟩

namespace Days

/-- Whether the date of an instant is one of the days. -/
def Holds (d : Days) (t : Instant) : Prop :=
  d.first ≤ t.date.number ∧ t.date.number ≤ d.last

/-- How days are asked for: relative to the present, or by two dates. -/
inductive IsAsked (now : Instant) (text : String) : Days → Prop
  | relative {w : Relative} {d : Days} (h : w.Spells (Text.trimmed text).toList)
    (hdays : w.days? now = some d) : IsAsked now text d
  | dates {first last : Date} (hfirst : first.IsSupported) (hlast : last.IsSupported)
    (hpair : TimeRange.IsPair first.text last.text text) : IsAsked now text ⟨first.number, last.number⟩

/-- Whether a range goes from the first second of the days to their last
whole second. -/
structure IsRange (d : Days) (r : TimeRange) : Prop where
  start : r.start.seconds = d.first * 86400
  start_nanos : r.start.nanos = 0
  stop : r.stop.seconds = d.last * 86400 + 86399
  stop_nanos : r.stop.nanos = 0

end Days

/-- Whether an instant lies behind the last whole second of its day. -/
def Time.Instant.IsLate (t : Instant) : Prop := t.secondOfDay = 86399 ∧ 0 < t.nanos

instance (t : Instant) : Decidable t.IsLate := inferInstanceAs (Decidable (_ ∧ _))

/-- Whether an instant lies in a range, both ends included. -/
def TimeRange.Holds (r : TimeRange) (t : Instant) : Prop := r.start ≤ t ∧ t ≤ r.stop

instance (r : TimeRange) (t : Instant) : Decidable (r.Holds t) :=
  inferInstanceAs (Decidable (_ ∧ _))

/-- An instant lies in the range of some days just when its date is one of
them and it does not lie behind the last whole second of the last. -/
theorem Days.IsRange.holds_iff {d : Days} {r : TimeRange} (h : d.IsRange r) (t : Instant) :
    r.Holds t ↔ d.Holds t ∧ ¬(t.date.number = d.last ∧ t.IsLate) := by
  have hstart := h.start
  have hstart' := h.start_nanos
  have hstop := h.stop
  have hstop' := h.stop_nanos
  unfold TimeRange.Holds Days.Holds Instant.IsLate
  rw [Instant.le_iff, Instant.le_iff, t.date_number]
  unfold Instant.day Instant.secondOfDay
  omega

-- ========================================================== answering

namespace Relative

variable {w : Relative} {now : Instant} {d : Days}

/-- The days that are asked for, as the seconds of the window. -/
theorem range_of_days? (h : w.days? now = some d) :
    w.start now = d.first * 86400 ∧ w.stop now = d.last * 86400 + 86399 ∧ w.nanos now = 0 := by
  cases w with
  | hours => cases h
  | today | yesterday | days | weeks =>
    cases h
    simp only [start, stop, nanos, now.date_number, and_self]

/-- Only the day of the present counts. -/
theorem days?_of_same_day {p : Instant} (h : p.day = now.day) (w : Relative) :
    w.days? p = w.days? now := by
  have hnumber : p.date.number = now.date.number := by
    rw [p.date_number, h, now.date_number]
  cases w <;> simp only [days?, hnumber]

/-- No text asks for days and for hours. -/
theorem not_isHourWindow_of_days? {s : String} (h : w.Spells s.toList)
    (hdays : w.days? now = some d) : ¬TimeRange.IsHourWindow s := by
  rintro ⟨k, -, hhours⟩
  have hword := TimeRange.not_word_of_isCountOf hhours (fun c => (Window.unitOf_eq_iff c).1.2)
    (by decide)
  have hletter : ∀ {letters : List Char} {n : Nat}, (∀ c ∈ letters, c ∉ ['h', 'H']) →
      ¬IsCountOf letters n s.toList := by
    intro letters n hnot hcount
    obtain ⟨ds, c, hc, hs, -⟩ := hcount
    obtain ⟨ds', c', hc', hs', -⟩ := hhours
    have hlast : c = c' := by
      rw [hs] at hs'
      exact List.singleton_inj.1 (List.append_inj' hs' rfl).2
    exact hnot c hc (hlast ▸ hc')
  cases w with
  | today => exact hword.1 (Text.lowered_eq_iff.2 h)
  | yesterday => exact hword.2 (Text.lowered_eq_iff.2 h)
  | hours => cases hdays
  | days => exact hletter (by simp) h
  | weeks => exact hletter (by simp) h

/-- What is spelled has no comma. -/
theorem comma_not_mem_of_spells {cs : List Char} (h : w.Spells cs) : ',' ∉ cs := by
  have hword : ∀ {word : List Char}, cs.map Text.lowerChar = word → ',' ∉ word → ',' ∉ cs :=
    fun hmap hnot hm => hnot (hmap ▸ List.mem_map_of_mem (f := Text.lowerChar) hm)
  have hcount : ∀ {letters : List Char} {k : Nat}, ',' ∉ letters → IsCountOf letters k cs →
      ',' ∉ cs := by
    rintro letters k hletters ⟨ds, c, hc, rfl, -, sign, zeros, hsign, rfl⟩
    simp only [List.mem_append, List.mem_singleton, not_or]
    refine ⟨⟨?_, fun hm => ?_, fun hm => ?_⟩, ?_⟩
    · rcases hsign with rfl | rfl <;> decide
    · exact absurd (List.eq_of_mem_replicate hm) (by decide)
    · exact nomatch List.all_eq_true.1 (Text.all_isDigit_numeral k) _ hm
    · rintro rfl
      exact hletters hc
  cases w with
  | today | yesterday => exact hword h (by decide)
  | hours | days | weeks => exact hcount (by decide) h

end Relative

namespace Days

variable {now : Instant} {text : String} {d : Days}

/-- Days that are asked for relative to the present are answered, whatever
the present. -/
theorem isAnswered_of_spells {w : Relative} (h : w.Spells (Text.trimmed text).toList)
    (hdays : w.days? now = some d) :
    (Time.InCalendar (d.first * 86400) → ∃ r, TimeRange.ofText text now = .ok r ∧ d.IsRange r)
      ∧ (¬Time.InCalendar (d.first * 86400) → ∃ err, TimeRange.ofText text now = .error err)
      ∧ d.first ≤ d.last := by
  -- a moment of the same day stands in for the present, which may lie inside
  -- of a leap second
  obtain ⟨p, hplain, hday⟩ := now.exists_plain
  rw [← Relative.days?_of_same_day hday] at hdays
  have hsame : TimeRange.ofText text now = TimeRange.ofText text p :=
    TimeRange.ofTrimmed_of_same_day hday.symm (Relative.not_isHourWindow_of_days? h hdays)
  obtain ⟨hstart, hstop, hnanos⟩ := Relative.range_of_days? hdays
  obtain ⟨hin, hout⟩ :=
    TimeRange.ofTrimmed_answers (Relative.comma_not_mem_of_spells h) hplain h
  rw [hstart] at hin hout
  rw [hsame]
  refine ⟨fun hfirst => ?_, hout, ?_⟩
  · obtain ⟨r, hr, hrange⟩ := hin hfirst
    exact ⟨r, hr, hrange.start.trans hstart, hrange.start_nanos.trans hnanos,
      hrange.stop.trans hstop, hrange.stop_nanos.trans hnanos⟩
  · have hlength := Relative.length_nonneg h
    have hsub := w.stop_sub_start p
    omega

/-- Days that are asked for are answered if they are in order and start in
the calendar. -/
theorem isAnswered (h : d.IsAsked now text) :
    (d.first ≤ d.last ∧ Time.InCalendar (d.first * 86400) →
        ∃ r, TimeRange.ofText text now = .ok r ∧ d.IsRange r)
      ∧ (¬(d.first ≤ d.last ∧ Time.InCalendar (d.first * 86400)) →
        ∃ err, TimeRange.ofText text now = .error err) := by
  cases h with
  | relative h hdays =>
    obtain ⟨hin, hout, horder⟩ := isAnswered_of_spells h hdays
    exact ⟨fun hd => hin hd.2, fun hd => hout fun hfirst => hd ⟨horder, hfirst⟩⟩
  | @dates first last hfirst hlast hpair =>
    -- The first day starts in the calendar since it is a date that was read.
    have hin : Time.InCalendar (first.number * 86400) := by
      obtain ⟨t, rfl, -, hsecond, -⟩ := hfirst.exists_second 0 (by decide)
      have hseconds : t.date.number * 86400 = t.seconds := by
        rw [t.seconds_eq, hsecond]
        exact (Int.add_zero _).symm
      rw [hseconds]
      exact t.year_bounds
    obtain ⟨hok, herror⟩ := TimeRange.ofText_dates hfirst hlast hpair now
    constructor
    · intro h
      obtain ⟨horder, -⟩ := h
      obtain ⟨r, hr, ⟨rfl, hsecond, hnanos⟩, rfl, hsecond', hnanos'⟩ := hok horder
      refine ⟨r, hr, ?_, hnanos, ?_, hnanos'⟩
      · rw [r.start.seconds_eq, hsecond]
        exact Int.add_zero _
      · rw [r.stop.seconds_eq, hsecond']
        rfl
    · intro hnot
      exact ⟨_, herror (Int.not_le.1 fun horder => hnot ⟨horder, hin⟩)⟩

/-- The range of the days that are asked for is theirs, if there is one. -/
theorem isRange_of_ofText (h : d.IsAsked now text) {r : TimeRange}
    (hr : TimeRange.ofText text now = .ok r) : d.IsRange r := by
  obtain ⟨hok, herror⟩ := isAnswered h
  by_cases hd : d.first ≤ d.last ∧ Time.InCalendar (d.first * 86400)
  · obtain ⟨r', hr', hrange⟩ := hok hd
    cases hr'.symm.trans hr
    exact hrange
  · obtain ⟨err, herr⟩ := herror hd
    cases herr.symm.trans hr

end Days

-- ============================================================= the law

/-- The ranges of days, at any moment.

Days that are asked for have a range if they are in order and start in the
calendar. An instant lies in it just when its date is one of the days,
unless it lies behind the last whole second of the last of them. Hence an
instant of yesterday or today lies in just one of these two ranges, unless
it lies behind the last whole second of its day; then it lies in neither. -/
theorem days_end_with_their_last_whole_second (now : Instant) :
    (∀ {text : String} {d : Days}, d.IsAsked now text →
        ((∃ r, TimeRange.ofText text now = .ok r)
          ↔ d.first ≤ d.last ∧ Time.InCalendar (d.first * 86400))
        ∧ ∀ {r}, TimeRange.ofText text now = .ok r → ∀ t : Instant,
          r.Holds t ↔ d.Holds t ∧ ¬(t.date.number = d.last ∧ t.IsLate))
      ∧ ∀ {yesterday today : String} {r r' : TimeRange},
        Relative.Spells (Text.trimmed yesterday).toList .yesterday →
        Relative.Spells (Text.trimmed today).toList .today →
        TimeRange.ofText yesterday now = .ok r → TimeRange.ofText today now = .ok r' →
        ∀ t : Instant,
          t.date.number = now.date.number - 1 ∨ t.date.number = now.date.number →
          (¬t.IsLate → (r.Holds t ↔ ¬r'.Holds t)) ∧ (t.IsLate → ¬r.Holds t ∧ ¬r'.Holds t) := by
  constructor
  · intro text d h
    obtain ⟨hok, herror⟩ := Days.isAnswered h
    refine ⟨⟨?_, fun hd => ?_⟩, fun hr => (Days.isRange_of_ofText h hr).holds_iff⟩
    · intro h
      obtain ⟨r, hr⟩ := h
      by_contra hd
      obtain ⟨err, herr⟩ := herror hd
      cases herr.symm.trans hr
    · obtain ⟨r, hr, -⟩ := hok hd
      exact ⟨r, hr⟩
  · intro yesterday today r r' hyesterday htoday hr hr' t hdate
    have hholds := (Days.isRange_of_ofText (.relative hyesterday rfl) hr).holds_iff t
    have hholds' := (Days.isRange_of_ofText (.relative htoday rfl) hr').holds_iff t
    unfold Days.Holds at hholds hholds'
    rw [hholds, hholds']
    by_cases hlate : t.IsLate
    · simp only [hlate, not_true_eq_false, false_imp_iff, true_and, and_true, true_imp_iff]
      omega
    · simp only [hlate, not_false_eq_true, true_imp_iff, and_false, and_true, false_imp_iff]
      omega

/-- The middle of the last second of the first of January 1970. -/
def lateInstant : Instant :=
  (Instant.of? 86399 500000000).getD .epoch

/-- It has the date of the epoch, but the range of that day ends before it:
ranges of days are ranges of whole seconds. -/
theorem today_ends_before_its_last_half_second :
    lateInstant.isLeap = false ∧ lateInstant.date = Instant.epoch.date
      ∧ ∃ r, TimeRange.ofText "today" .epoch = .ok r ∧ ¬r.Holds lateInstant := by
  have htoday : Relative.Spells (Text.trimmed "today").toList .today := by
    show List.map _ _ = _
    decide +kernel
  have hasked : Days.IsAsked .epoch "today" ⟨0, 0⟩ := .relative htoday (by decide)
  have hfirst : Time.InCalendar (0 * 86400) := by
    rw [Time.inCalendar_iff]
    unfold Time.firstSecond Time.lastSecond
    omega
  obtain ⟨r, hr, hrange⟩ := (Days.isAnswered hasked).1 ⟨Int.le_refl 0, hfirst⟩
  refine ⟨by decide +kernel, by decide +kernel, r, hr, fun hin => ?_⟩
  exact ((hrange.holds_iff lateInstant).1 hin).2 (by decide +kernel)

/-- Noon of the day after. -/
def noonAfter : Instant :=
  (Instant.of? 129600 0).getD .epoch

/-- At noon, the middle of yesterday's last second lies in the range of two
days, but in none of those of yesterday, of today and of yesterday's date. -/
theorem last_half_second_is_in_no_day :
    ∃ yesterday today both date, TimeRange.ofText "yesterday" noonAfter = .ok yesterday
      ∧ TimeRange.ofText "today" noonAfter = .ok today
      ∧ TimeRange.ofText "2d" noonAfter = .ok both
      ∧ TimeRange.ofText "1970-01-01, 1970-01-01" noonAfter = .ok date
      ∧ lateInstant.date.number = noonAfter.date.number - 1
      ∧ ¬yesterday.Holds lateInstant ∧ ¬today.Holds lateInstant ∧ both.Holds lateInstant
      ∧ ¬date.Holds lateInstant := by
  have hyesterday : Relative.Spells (Text.trimmed "yesterday").toList .yesterday := by
    show List.map _ _ = _
    decide +kernel
  have htoday : Relative.Spells (Text.trimmed "today").toList .today := by
    show List.map _ _ = _
    decide +kernel
  have hboth : Relative.Spells (Text.trimmed "2d").toList (.days 2) :=
    ⟨['2'], 'd', by decide, by decide +kernel, by decide, [], 0, .inl rfl, by decide +kernel⟩
  have hdate : Days.IsAsked noonAfter "1970-01-01, 1970-01-01" ⟨0, 0⟩ :=
    @Days.IsAsked.dates _ _ ⟨1970, 1, 1⟩ ⟨1970, 1, 1⟩ (by decide) (by decide)
      ⟨[], [], [' '], [], by decide, by decide +kernel⟩
  have hnow : noonAfter.date.number = 1 := by decide +kernel
  have hlast : lateInstant.date.number = 0 := by decide +kernel
  have hin : ∀ day : Int, noonAfter.date.number - 1 ≤ day → day ≤ noonAfter.date.number →
      Time.InCalendar (day * 86400) := by
    intro day hlow hhigh
    rw [Time.inCalendar_iff]
    unfold Time.firstSecond Time.lastSecond
    omega
  have hback : noonAfter.date.number - 1 ≤ noonAfter.date.number := Int.sub_le_self _ (by decide)
  obtain ⟨hdays, hneither⟩ := days_end_with_their_last_whole_second noonAfter
  obtain ⟨y, hy⟩ := (hdays (.relative hyesterday rfl)).1.2
    ⟨Int.le_refl _, hin _ (Int.le_refl _) hback⟩
  obtain ⟨n, hn⟩ := (hdays (.relative htoday rfl)).1.2
    ⟨Int.le_refl _, hin _ hback (Int.le_refl _)⟩
  obtain ⟨b, hb⟩ := (hdays (.relative hboth rfl)).1.2 ⟨hback, hin _ (Int.le_refl _) hback⟩
  obtain ⟨d, hd⟩ := (hdays hdate).1.2
    ⟨by decide, hin 0 (by rw [hnow]; decide) (by rw [hnow]; decide)⟩
  have hlate : lateInstant.IsLate := by decide
  obtain ⟨hnoty, hnotn⟩ := (hneither hyesterday htoday hy hn lateInstant
    (.inl (by rw [hnow, hlast]; rfl))).2 hlate
  have hinb := ((hdays (.relative hboth rfl)).2 hb lateInstant).2
  have hnotd := ((hdays hdate).2 hd lateInstant).1
  unfold Days.Holds at hinb
  simp only [hnow, hlast] at hinb hnotd
  exact ⟨y, n, b, d, hy, hn, hb, hd, by rw [hnow, hlast]; rfl, hnoty, hnotn, hinb (by decide),
    fun h => (hnotd h).2 ⟨trivial, hlate⟩⟩

end EventAnalytics
