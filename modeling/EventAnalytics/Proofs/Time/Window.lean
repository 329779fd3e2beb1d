/-
The ranges of relative expressions.

A relative expression asks for today, for yesterday, or for a number of
hours, days or weeks back from the present (`Relative`). How each is
spelled is said without reading it (`Relative.Spells`), and so is where
its range starts and stops, in whole numbers without bounds. Reading keeps
to this as long as the start lies in the calendar, and names no range
otherwise (`Relative.IsAnswered`).

The program has bounds of its own on the way, for a count, for a span of
time and for an instant. The first two do no harm, since whatever goes
beyond them starts before the calendar does. A leap second has to be left
out, because counting back from inside it starts at its end.
-/
import EventAnalytics.TimeRange
import EventAnalytics.Proofs.Text.Digits
import EventAnalytics.Proofs.Text.Letters
import EventAnalytics.Proofs.Time.Calendar

namespace EventAnalytics

open Time (Instant Date firstSecond lastSecond nanosPerSecond)

-- ==================================================== what is asked for

/-- What a relative expression asks for. -/
inductive Relative where
  | today
  | yesterday
  | hours (k : Nat)
  | days (k : Nat)
  | weeks (k : Nat)
  deriving DecidableEq, Repr

namespace Relative

/-- The second in which the range starts. -/
def start (now : Instant) : Relative → Int
  | today => now.day * 86400
  | yesterday => (now.day - 1) * 86400
  | hours k => now.seconds - 3600 * k
  | days k => (now.day - (k - 1)) * 86400
  | weeks k => (now.day - (7 * k - 1)) * 86400

/-- The second in which the range stops. -/
def stop (now : Instant) : Relative → Int
  | yesterday => (now.day - 1) * 86400 + 86399
  | hours _ => now.seconds
  | _ => now.day * 86400 + 86399

/-- The nanoseconds past both seconds. -/
def nanos (now : Instant) : Relative → Nat
  | hours _ => now.nanos
  | _ => 0

/-- The seconds from the start to the stop. -/
def length : Relative → Int
  | today | yesterday => 86399
  | hours k => 3600 * k
  | days k => 86400 * k - 1
  | weeks k => 604800 * k - 1

/-- Whether a text is a decimal numeral of a positive number, which may have
a plus sign and zeros in front. -/
def IsCount (k : Nat) (cs : List Char) : Prop :=
  0 < k ∧ ∃ sign zeros, (sign = [] ∨ sign = ['+'])
    ∧ cs = sign ++ (List.replicate zeros '0' ++ Text.numeral k)

/-- Whether a text is a count with one of some letters behind it. -/
def IsCountOf (letters : List Char) (k : Nat) (cs : List Char) : Prop :=
  ∃ ds, ∃ c ∈ letters, cs = ds ++ [c] ∧ IsCount k ds

/-- How a range is asked for. -/
def Spells (cs : List Char) : Relative → Prop
  | today => cs.map Text.lowerChar = "today".toList
  | yesterday => cs.map Text.lowerChar = "yesterday".toList
  | hours k => IsCountOf ['h', 'H'] k cs
  | days k => IsCountOf ['d', 'D'] k cs
  | weeks k => IsCountOf ['w', 'W'] k cs

/-- Whether a range is the one that is asked for. -/
structure IsRange (w : Relative) (now : Instant) (r : TimeRange) : Prop where
  start : r.start.seconds = w.start now
  start_nanos : r.start.nanos = w.nanos now
  stop : r.stop.seconds = w.stop now
  stop_nanos : r.stop.nanos = w.nanos now

/-- Whether a result is right: the range that is asked for if it starts in
the calendar, and an error otherwise. -/
def IsAnswered (w : Relative) (now : Instant) (result : Except RangeError TimeRange) : Prop :=
  (Time.InCalendar (w.start now) → ∃ r, result = .ok r ∧ w.IsRange now r)
    ∧ (¬ Time.InCalendar (w.start now) → ∃ err, result = .error err)

/-- A window is as long as it says. -/
theorem stop_sub_start (w : Relative) (now : Instant) : w.stop now - w.start now = w.length := by
  cases w <;> simp only [stop, start, length] <;> omega

theorem stop_le (w : Relative) (now : Instant) : w.stop now ≤ lastSecond := by
  have htoday := now.end_of_day_le
  have hlast := now.le_last
  cases w <;> simp only [stop] <;> omega

/-- No window has a negative length. -/
theorem length_nonneg {w : Relative} {cs : List Char} (h : w.Spells cs) : 0 ≤ w.length := by
  cases w with
  | today | yesterday => decide
  | hours k | days k | weeks k =>
    obtain ⟨-, -, -, -, hk, -⟩ := h
    simp only [length]
    omega

/-- Only the start of a range can fall out of the calendar. -/
theorem inCalendar_start_iff {w : Relative} (hlength : 0 ≤ w.length) (now : Instant) :
    Time.InCalendar (w.start now) ↔ firstSecond ≤ w.start now := by
  have hstop := w.stop_le now
  have hsub := w.stop_sub_start now
  rw [Time.inCalendar_iff]
  omega

namespace IsRange

variable {w : Relative} {now : Instant} {r : TimeRange}

/-- There is one such range at most. -/
theorem eq_of_same {w' : Relative} {r' : TimeRange} (h : w.IsRange now r) (h' : w'.IsRange now r')
    (hstart : w.start now = w'.start now) (hstop : w.stop now = w'.stop now)
    (hnanos : w.nanos now = w'.nanos now) : r = r' := by
  have hfirst : r.start = r'.start := Instant.eq_of_fields
    (h.start.trans (hstart.trans h'.start.symm))
    (h.start_nanos.trans (hnanos.trans h'.start_nanos.symm))
  have hlast : r.stop = r'.stop := Instant.eq_of_fields
    (h.stop.trans (hstop.trans h'.stop.symm)) (h.stop_nanos.trans (hnanos.trans h'.stop_nanos.symm))
  cases r
  cases r'
  cases hfirst
  cases hlast
  rfl

/-- The range is exactly as long as it should be. -/
theorem nanosBetween (h : w.IsRange now r) (hnow : now.isLeap = false) :
    Instant.nanosBetween r.start r.stop = w.length * nanosPerSecond := by
  have hclock : w.nanos now < nanosPerSecond := by
    have hnanos : now.nanos < nanosPerSecond := by simpa [Instant.isLeap] using hnow
    cases w <;> first | exact hnanos | exact (by decide : 0 < nanosPerSecond)
  have hplain : ∀ t : Instant, t.nanos = w.nanos now → t.isLeap = false := by
    intro t ht
    unfold Instant.isLeap
    rw [ht]
    simpa using hclock
  rw [Instant.nanosBetween_of_not_leap (hplain _ h.start_nanos) (hplain _ h.stop_nanos), h.start,
    h.stop, h.start_nanos, h.stop_nanos, stop_sub_start, Int.sub_self, Int.add_zero]

/-- A range that is the window of a present has its length in seconds. -/
theorem seconds (h : w.IsRange now r) (hnow : now.isLeap = false) : r.seconds = w.length := by
  unfold TimeRange.seconds Instant.secondsBetween
  rw [h.nanosBetween hnow]
  exact Int.mul_tdiv_cancel _ (by decide)

end IsRange

/-- Right results for the same range are the same, but for their errors. -/
theorem IsAnswered.toOption_eq {w w' : Relative} {now : Instant}
    {result result' : Except RangeError TimeRange} (h : w.IsAnswered now result)
    (h' : w'.IsAnswered now result') (hstart : w.start now = w'.start now)
    (hstop : w.stop now = w'.stop now) (hnanos : w.nanos now = w'.nanos now) :
    result.toOption = result'.toOption := by
  unfold IsAnswered at h'
  rw [← hstart] at h'
  by_cases hin : Time.InCalendar (w.start now)
  · obtain ⟨r, rfl, hr⟩ := h.1 hin
    obtain ⟨r', rfl, hr'⟩ := h'.1 hin
    rw [hr.eq_of_same hr' hstart hstop hnanos]
  · obtain ⟨err, rfl⟩ := h.2 hin
    obtain ⟨err', rfl⟩ := h'.2 hin
    rfl

end Relative

-- ============================================================ answering

namespace TimeRange

open Relative (inCalendar_start_iff)

/-- There is a range between two instants that are in order, and none between
others. -/
theorem between_cases (a b : Instant) :
    (a ≤ b → ∃ r, between a b = .ok r ∧ r.start = a ∧ r.stop = b)
      ∧ (¬a ≤ b → between a b = .error .endBeforeStart) := by
  unfold between
  by_cases h : a ≤ b
  · rw [dif_pos h]
    exact ⟨fun _ => ⟨_, rfl, rfl, rfl⟩, fun hnot => absurd h hnot⟩
  · rw [dif_neg h]
    exact ⟨fun hle => absurd hle h, fun _ => rfl⟩

/-- Whole days are answered as whole days. -/
theorem days_answers {w : Relative} {now : Instant} (text : String) {first last : Int}
    (hlength : 0 ≤ w.length) (hstart : w.start now = first * 86400)
    (hstop : w.stop now = last * 86400 + 86399) (hnanos : w.nanos now = 0) :
    w.IsAnswered now (days text first last) := by
  have hlast := w.stop_le now
  have hsub := w.stop_sub_start now
  unfold Relative.IsAnswered
  rw [inCalendar_start_iff hlength, hstart]
  constructor
  · intro hfirst
    obtain ⟨a, ha, hseconds, hzero⟩ :=
      @Instant.of?_of_le (first * 86400) 0 hfirst (by omega) (by decide)
    obtain ⟨b, hb, hseconds', hzero'⟩ :=
      @Instant.of?_of_le (last * 86400 + 86399) 0 (by omega) (by omega) (by decide)
    have hle : a ≤ b := Instant.le_iff.2 (by omega)
    obtain ⟨r, hr, rfl, rfl⟩ := (between_cases a b).1 hle
    refine ⟨r, ?_, hseconds.trans hstart.symm, hzero.trans hnanos.symm,
      hseconds'.trans hstop.symm, hzero'.trans hnanos.symm⟩
    unfold days Instant.startOfDay? Instant.endOfDay?
    rw [ha, hb]
    exact hr
  · intro hfirst
    refine ⟨.outOfRange text, ?_⟩
    unfold days Instant.startOfDay?
    rw [Instant.of?_of_lt (Int.not_le.1 hfirst)]

/-- Before the calendar there are only errors. -/
theorem error_answers {w : Relative} {now : Instant} (err : RangeError) (hlength : 0 ≤ w.length)
    (hstart : w.start now < firstSecond) : w.IsAnswered now (.error err) := by
  unfold Relative.IsAnswered
  rw [inCalendar_start_iff hlength]
  exact ⟨fun hfirst => absurd hstart (Int.not_lt.2 hfirst), fun _ => ⟨err, rfl⟩⟩

/-- A window of hours is answered, and ends with the present. -/
theorem hours_answers (text : String) {now : Instant} (hnow : now.isLeap = false) (k : Nat) :
    (Relative.hours k).IsAnswered now (ofWindow text ⟨k, .hours⟩ now) := by
  have hlast := now.le_last
  have hlength : 0 ≤ (Relative.hours k).length := by
    simp only [Relative.length]
    omega
  -- more hours than can be counted in nanoseconds are an error, and would
  -- start before the calendar anyway
  by_cases hspan : (k : Int) * 3600 ≤ Window.maxSpan
  · have hback : (Window.secondsBack? k).bind now.earlier?
        = Instant.of? (now.seconds - k * 3600) now.nanos := by
      unfold Window.secondsBack? Instant.earlier?
      rw [if_pos hspan, Option.bind_some, hnow]
      rfl
    have hstart : (Relative.hours k).start now = now.seconds - k * 3600 := by
      simp only [Relative.start]
      omega
    unfold Relative.IsAnswered
    rw [inCalendar_start_iff hlength, hstart]
    constructor
    · intro hfirst
      have hnanos : now.nanos < nanosPerSecond := by simpa [Instant.isLeap] using hnow
      obtain ⟨a, ha, hseconds, hsame⟩ := Instant.of?_of_le hfirst (by omega) hnanos
      have hle : a ≤ now := Instant.le_iff.2 (by omega)
      obtain ⟨r, hr, rfl, hstop⟩ := (between_cases a now).1 hle
      refine ⟨r, ?_, hseconds.trans hstart.symm, hsame, by rw [hstop]; rfl, by rw [hstop]; rfl⟩
      unfold ofWindow
      rw [hback, ha]
      exact hr
    · intro hfirst
      refine ⟨.outOfRange text, ?_⟩
      unfold ofWindow
      rw [hback, Instant.of?_of_lt (Int.not_le.1 hfirst)]
  · have herror : ofWindow text ⟨k, .hours⟩ now = .error (.outOfRange text) := by
      unfold ofWindow Window.secondsBack?
      rw [if_neg hspan]
      rfl
    rw [herror]
    refine error_answers _ hlength ?_
    unfold Window.maxSpan at hspan
    unfold lastSecond at hlast
    unfold firstSecond
    simp only [Relative.start]
    omega

/-- Days up to today are answered, however many there are. -/
theorem daysBack_answers {w : Relative} (text : String) {now : Instant} {count : Int}
    (hlength : 0 ≤ w.length) (hstart : w.start now = (now.day - (count - 1)) * 86400)
    (hstop : w.stop now = now.day * 86400 + 86399) (hnanos : w.nanos now = 0) :
    w.IsAnswered now
      (match Window.daysBack? count with
        | some k => days text (now.day - k) now.day
        | none => .error (.outOfRange text)) := by
  unfold Window.daysBack?
  by_cases hspan : (count - 1) * 86400 ≤ Window.maxSpan
  · rw [if_pos hspan]
    exact days_answers text hlength hstart hstop hnanos
  · rw [if_neg hspan]
    refine error_answers _ hlength ?_
    have hend := now.end_of_day_le
    unfold Window.maxSpan at hspan
    unfold lastSecond at hend
    unfold firstSecond
    omega

/-- The windows that a positive count stands for. -/
theorem ofWindow_answers (text : String) {now : Instant} (hnow : now.isLeap = false) {k : Nat}
    (hk : 0 < k) :
    (Relative.hours k).IsAnswered now (ofWindow text ⟨k, .hours⟩ now)
      ∧ (Relative.days k).IsAnswered now (ofWindow text ⟨k, .days⟩ now)
      ∧ (Relative.weeks k).IsAnswered now (ofWindow text ⟨k, .weeks⟩ now) := by
  refine ⟨hours_answers text hnow k, ?_, ?_⟩
  · exact daysBack_answers text (by simp only [Relative.length]; omega) rfl rfl rfl
  · refine daysBack_answers text (by simp only [Relative.length]; omega) ?_ rfl rfl
    simp only [Relative.start]
    omega

end TimeRange

-- ============================================================= reading

namespace Window

open Relative (IsCount IsCountOf)

theorem unitOf_eq_iff (c : Char) :
    (unitOf c = .hours ↔ c ∈ ['h', 'H']) ∧ (unitOf c = .days ↔ c ∈ ['d', 'D'])
      ∧ (unitOf c = .weeks ↔ c ∈ ['w', 'W']) := by
  rw [← Text.lowerChar_eq_iff (by decide) (by decide),
    ← Text.lowerChar_eq_iff (by decide) (by decide),
    ← Text.lowerChar_eq_iff (by decide) (by decide)]
  unfold unitOf
  split <;> simp_all

theorem unsigned_of_digits {ds : List Char} (h : ds.all Text.isDigit = true) :
    unsigned ds = (false, ds) := by
  unfold unsigned
  split
  · cases h
  · cases h
  · rfl

/-- Counts are read, unless they are too large. -/
theorem readCount?_of_isCount {k : Nat} {cs : List Char} (h : IsCount k cs) :
    readCount? cs = if (k : Int) ≤ maxCount then some (k : Int) else none := by
  obtain ⟨hk, sign, zeros, hsign, rfl⟩ := h
  have hdigits : (List.replicate zeros '0' ++ Text.numeral k).all Text.isDigit = true := by
    rw [List.all_append, Text.all_isDigit_zeros, Text.all_isDigit_numeral]
    rfl
  have hunsigned : unsigned (sign ++ (List.replicate zeros '0' ++ Text.numeral k))
      = (false, List.replicate zeros '0' ++ Text.numeral k) := by
    rcases hsign with rfl | rfl
    · exact unsigned_of_digits hdigits
    · rfl
  unfold readCount?
  rw [hunsigned]
  simp only [(Text.readNumeral_eq_some_iff hk).2 ⟨zeros, rfl⟩, Option.bind_some, hk, true_and]

/-- Nothing else is read as a count. -/
theorem isCount_of_readCount? {cs : List Char} {n : Int} (h : readCount? cs = some n) :
    ∃ k : Nat, IsCount k cs ∧ n = k ∧ 0 < n ∧ n ≤ maxCount := by
  have hnumeral : ∀ {ds : List Char}, ((Text.readNumeral ds).bind fun k =>
      if 0 < k ∧ (k : Int) ≤ maxCount then some (k : Int) else none) = some n →
      ∃ k zeros, ds = List.replicate zeros '0' ++ Text.numeral k ∧ 0 < k ∧ n = k
        ∧ n ≤ maxCount := by
    intro ds hds
    obtain ⟨k, hread, hfits⟩ := Option.bind_eq_some_iff.1 hds
    split at hfits
    · next hk =>
      cases hfits
      obtain ⟨zeros, hzeros⟩ := (Text.readNumeral_eq_some_iff hk.1).1 hread
      exact ⟨k, zeros, hzeros, hk.1, rfl, hk.2⟩
    · cases hfits
  unfold readCount? unsigned at h
  split at h
  · cases h
  · next hsign =>
    split at hsign
    · cases hsign
      obtain ⟨k, zeros, rfl, hk, rfl, hmost⟩ := hnumeral h
      exact ⟨k, ⟨hk, ['+'], zeros, .inr rfl, rfl⟩, rfl, by omega, hmost⟩
    · cases hsign
    · cases hsign
      obtain ⟨k, zeros, rfl, hk, rfl, hmost⟩ := hnumeral h
      exact ⟨k, ⟨hk, [], zeros, .inl rfl, rfl⟩, rfl, by omega, hmost⟩

/-- A count with a unit behind it is read as a window, unless it is too
large. -/
theorem ofText?_of_isCountOf {s : String} {letters : List Char} {k : Nat} {u : WindowUnit}
    (h : IsCountOf letters k s.toList) (hletters : letters.all Text.isLetter = true)
    (hunit : ∀ c ∈ letters, unitOf c = u) :
    ofText? s = if (k : Int) ≤ maxCount then some ⟨k, u⟩ else none := by
  obtain ⟨ds, c, hc, hs, hcount⟩ := h
  unfold ofText?
  rw [hs, List.getLast?_concat, List.dropLast_concat]
  simp only [List.all_eq_true.1 hletters c hc, if_true, readCount?_of_isCount hcount, hunit c hc]
  split <;> rfl

/-- A window comes from a count and a letter. -/
theorem exists_of_ofText? {s : String} {w : Window} (h : ofText? s = some w) :
    ∃ ds c, ∃ k : Nat, s.toList = ds ++ [c] ∧ Text.isLetter c = true ∧ IsCount k ds
      ∧ w = ⟨k, unitOf c⟩ ∧ 0 < w.count ∧ w.count ≤ maxCount := by
  unfold ofText? at h
  split at h
  · cases h
  · next c hlast =>
    split at h
    · next hletter =>
      obtain ⟨n, hread, rfl⟩ := Option.map_eq_some_iff.1 h
      obtain ⟨k, hcount, rfl, hpos, hmost⟩ := isCount_of_readCount? hread
      obtain ⟨ds, hs⟩ := List.getLast?_eq_some_iff.1 hlast
      rw [hs, List.dropLast_concat] at hcount
      exact ⟨ds, c, k, hs, hletter, hcount, rfl, hpos, hmost⟩
    · cases h

end Window

namespace TimeRange

open Relative (IsCountOf Spells)

/-- Without a comma there are no two bounds. -/
theorem bounds?_eq_none {s : String} (h : ',' ∉ s.toList) : bounds? s = none := by
  have hnone : s.toList.dropWhile (· ≠ ',') = [] := by
    rw [Text.dropWhile_eq_nil_iff_all, List.all_eq_true]
    intro c hc
    have hne : c ≠ ',' := fun hsame => h (hsame ▸ hc)
    simpa using hne
  unfold bounds?
  simp only [hnone]

/-- The words end in a letter that is no unit. -/
theorem not_word_of_isCountOf {s : String} {letters : List Char} {k : Nat} {u : WindowUnit}
    (h : IsCountOf letters k s.toList) (hunit : ∀ c ∈ letters, Window.unitOf c = u)
    (hu : u ≠ .other 'y') : Text.lowered s ≠ "today" ∧ Text.lowered s ≠ "yesterday" := by
  obtain ⟨ds, c, hc, hs, -⟩ := h
  have hlast : ∀ word : String, word.toList.getLast? = some 'y' → Text.lowered s ≠ word := by
    intro word hy hword
    rw [Text.lowered_eq_iff, hs, List.map_append, List.map_singleton] at hword
    rw [← hword, List.getLast?_concat] at hy
    apply hu
    rw [← hunit c hc]
    unfold Window.unitOf
    rw [Option.some.inj hy]
    rfl
  exact ⟨hlast _ (by decide), hlast _ (by decide)⟩

/-- A count of a unit is answered, also when it is too large to be read. -/
theorem ofTrimmed_isCountOf {w : Relative} {s : String} {now : Instant} {letters : List Char}
    {k : Nat} {u : WindowUnit} (hcomma : ',' ∉ s.toList) (h : IsCountOf letters k s.toList)
    (hletters : letters.all Text.isLetter = true) (hunit : ∀ c ∈ letters, Window.unitOf c = u)
    (hu : u ≠ .other 'y') (hlength : 0 ≤ w.length)
    (hfar : Window.maxCount < k → w.start now < firstSecond)
    (hwindow : w.IsAnswered now (ofWindow s ⟨k, u⟩ now)) : w.IsAnswered now (ofTrimmed s now) := by
  obtain ⟨htoday, hyesterday⟩ := not_word_of_isCountOf h hunit hu
  unfold ofTrimmed
  rw [bounds?_eq_none hcomma]
  simp only [htoday, hyesterday, if_false, Window.ofText?_of_isCountOf h hletters hunit]
  by_cases hk : (k : Int) ≤ Window.maxCount
  · simp only [hk, if_true]
    exact hwindow
  · simp only [hk, if_false]
    exact error_answers _ hlength (hfar (Int.not_le.1 hk))

/-- What is spelled as a relative range is answered as one. -/
theorem ofTrimmed_answers {w : Relative} {s : String} {now : Instant} (hcomma : ',' ∉ s.toList)
    (hnow : now.isLeap = false) (h : w.Spells s.toList) : w.IsAnswered now (ofTrimmed s now) := by
  have hlength := Relative.length_nonneg h
  have hlast := now.le_last
  have hend := now.end_of_day_le
  unfold lastSecond at hlast hend
  -- a count that is too large to be read starts long before the calendar
  have hfar : ∀ {k : Nat}, Window.maxCount < k →
      now.seconds - 3600 * k < firstSecond ∧ (now.day - (k - 1)) * 86400 < firstSecond
        ∧ (now.day - (7 * k - 1)) * 86400 < firstSecond := by
    intro k hk
    unfold Window.maxCount at hk
    unfold firstSecond
    omega
  cases w with
  | today =>
    have hword : Text.lowered s = "today" := Text.lowered_eq_iff.2 h
    unfold ofTrimmed
    rw [bounds?_eq_none hcomma]
    simp only [hword, if_true]
    exact days_answers s hlength rfl rfl rfl
  | yesterday =>
    have hword : Text.lowered s = "yesterday" := Text.lowered_eq_iff.2 h
    unfold ofTrimmed
    rw [bounds?_eq_none hcomma]
    simp only [hword, String.reduceEq, if_true, if_false]
    exact days_answers s hlength rfl rfl rfl
  | hours k =>
    obtain ⟨-, -, -, -, hk, -⟩ := id h
    exact ofTrimmed_isCountOf hcomma h (by decide) (fun c => (Window.unitOf_eq_iff c).1.2)
      (by decide) hlength (fun hmost => (hfar hmost).1) (ofWindow_answers s hnow hk).1
  | days k =>
    obtain ⟨-, -, -, -, hk, -⟩ := id h
    exact ofTrimmed_isCountOf hcomma h (by decide) (fun c => (Window.unitOf_eq_iff c).2.1.2)
      (by decide) hlength (fun hmost => (hfar hmost).2.1) (ofWindow_answers s hnow hk).2.1
  | weeks k =>
    obtain ⟨-, -, -, -, hk, -⟩ := id h
    exact ofTrimmed_isCountOf hcomma h (by decide) (fun c => (Window.unitOf_eq_iff c).2.2.2)
      (by decide) hlength (fun hmost => (hfar hmost).2.2) (ofWindow_answers s hnow hk).2.2

/-- What is not spelled as a relative range names none. -/
theorem ofTrimmed_error {s : String} {now : Instant} (hcomma : ',' ∉ s.toList)
    (h : ∀ w : Relative, ¬ w.Spells s.toList) : ∃ err, ofTrimmed s now = .error err := by
  have htoday : Text.lowered s ≠ "today" := fun hword => h .today (Text.lowered_eq_iff.1 hword)
  have hyesterday : Text.lowered s ≠ "yesterday" :=
    fun hword => h .yesterday (Text.lowered_eq_iff.1 hword)
  unfold ofTrimmed
  rw [bounds?_eq_none hcomma]
  simp only [htoday, hyesterday, if_false]
  cases hread : Window.ofText? s with
  | none => exact ⟨.unknownFormat s, rfl⟩
  | some w =>
    obtain ⟨ds, c, k, hs, -, hcount, rfl, -, -⟩ := Window.exists_of_ofText? hread
    obtain ⟨hhours, hdays, hweeks⟩ := Window.unitOf_eq_iff c
    have hnone : ∀ {letters : List Char}, c ∈ letters → IsCountOf letters k s.toList :=
      fun hc => ⟨ds, c, hc, hs, hcount⟩
    show ∃ err, ofWindow s ⟨k, Window.unitOf c⟩ now = .error err
    cases hunit : Window.unitOf c with
    | hours => exact absurd (hnone (hhours.1 hunit)) (h (.hours k))
    | days => exact absurd (hnone (hdays.1 hunit)) (h (.days k))
    | weeks => exact absurd (hnone (hweeks.1 hunit)) (h (.weeks k))
    | other u => exact ⟨.unknownUnit u s, rfl⟩

end TimeRange

-- ============================================================= the law

/-- The ranges of expressions without a comma, at a moment outside of leap
seconds.

An expression that asks for a relative range gets it, with both ends as
they are in exact arithmetic and as long as it should be, if it starts in
the calendar; if not, and for every other expression, there is an error.
Hence as many weeks, and seven times as many days, are the same range, and
so are one day and today. On the way nothing gets out of bounds: a count
that is read is positive and fits its type, and behind it there is one
byte. -/
theorem relative_ranges_are_exact {s : String} {now : Instant} (hcomma : ',' ∉ s.toList)
    (hnow : now.isLeap = false) :
    (∀ w : Relative, w.Spells (Text.trimmed s).toList →
        (Time.InCalendar (w.start now) → ∃ r, TimeRange.ofText s now = .ok r
          ∧ (r.start.seconds = w.start now ∧ r.start.nanos = w.nanos now)
          ∧ (r.stop.seconds = w.stop now ∧ r.stop.nanos = w.nanos now)
          ∧ Instant.nanosBetween r.start r.stop = w.length * nanosPerSecond
          ∧ r.seconds = w.length)
        ∧ (¬ Time.InCalendar (w.start now) → ∃ err, TimeRange.ofText s now = .error err))
      ∧ ((∀ w : Relative, ¬ w.Spells (Text.trimmed s).toList) →
        ∃ err, TimeRange.ofText s now = .error err)
      ∧ (∀ s' : String, ',' ∉ s'.toList →
        (∃ k, Relative.Spells (Text.trimmed s).toList (.weeks k)
            ∧ Relative.Spells (Text.trimmed s').toList (.days (7 * k)))
          ∨ (Relative.Spells (Text.trimmed s).toList (.days 1)
            ∧ Relative.Spells (Text.trimmed s').toList .today) →
        (TimeRange.ofText s now).toOption = (TimeRange.ofText s' now).toOption)
      ∧ (∀ w, Window.ofText? (Text.trimmed s) = some w → 0 < w.count ∧ w.count ≤ Window.maxCount
        ∧ ∃ ds c, (Text.trimmed s).toList = ds ++ [c] ∧ c.utf8Size = 1) := by
  have hanswers : ∀ {w : Relative} {s : String}, ',' ∉ s.toList →
      w.Spells (Text.trimmed s).toList → w.IsAnswered now (TimeRange.ofText s now) :=
    fun hs h => TimeRange.ofTrimmed_answers (fun hc => hs (Text.mem_of_mem_trimmed hc)) hnow h
  refine ⟨?_, ?_, ?_, ?_⟩
  · intro w h
    obtain ⟨hin, hout⟩ := hanswers hcomma h
    refine ⟨fun hstart => ?_, hout⟩
    obtain ⟨r, hr, hrange⟩ := hin hstart
    exact ⟨r, hr, ⟨hrange.start, hrange.start_nanos⟩, ⟨hrange.stop, hrange.stop_nanos⟩,
      hrange.nanosBetween hnow, hrange.seconds hnow⟩
  · exact TimeRange.ofTrimmed_error fun hc => hcomma (Text.mem_of_mem_trimmed hc)
  -- Both pairs start at the same second and have the same length.
  · rintro s' hcomma' (⟨k, h, h'⟩ | ⟨h, h'⟩)
    · exact (hanswers hcomma h).toOption_eq (hanswers hcomma' h')
        (by simp only [Relative.start]; omega) rfl rfl
    · exact (hanswers hcomma h).toOption_eq (hanswers hcomma' h')
        (by simp only [Relative.start]; omega) rfl rfl
  · intro w hw
    obtain ⟨ds, c, -, hs, hletter, -, -, hpos, hmost⟩ := Window.exists_of_ofText? hw
    exact ⟨hpos, hmost, ds, c, hs, Text.utf8Size_of_isLetter hletter⟩

/-- Seven weeks are 49 whole days. More hours than can be counted are an
error like any other. -/
theorem seven_weeks_are_forty_nine_days :
    (',' ∉ " +007W\n".toList ∧ Instant.epoch.isLeap = false
        ∧ Relative.Spells (Text.trimmed " +007W\n").toList (.weeks 7)
        ∧ ∃ r, TimeRange.ofText " +007W\n" Instant.epoch = .ok r ∧ r.start.seconds = -48 * 86400
          ∧ r.stop.seconds = 86399 ∧ r.seconds = 49 * 86400 - 1)
      ∧ (',' ∉ "9999999999999999999h".toList
        ∧ Relative.Spells (Text.trimmed "9999999999999999999h").toList (.hours 9999999999999999999)
        ∧ ∃ err, TimeRange.ofText "9999999999999999999h" Instant.epoch = .error err) := by
  have hweeks : Relative.Spells (Text.trimmed " +007W\n").toList (.weeks 7) := by
    have htrimmed : (Text.trimmed " +007W\n").toList = "+007".toList ++ ['W'] := by decide +kernel
    have hread : Text.readNumeral ['0', '0', '7'] = some 7 := by decide
    obtain ⟨zeros, hzeros⟩ := (Text.readNumeral_eq_some_iff (by decide)).1 hread
    exact ⟨_, 'W', by decide, htrimmed, by decide, ['+'], zeros, .inr rfl,
      congrArg ('+' :: ·) hzeros⟩
  have hhours : Relative.Spells (Text.trimmed "9999999999999999999h").toList
      (.hours 9999999999999999999) := by
    have htrimmed : (Text.trimmed "9999999999999999999h").toList
        = List.replicate 19 '9' ++ ['h'] := by decide +kernel
    have hread : Text.readNumeral (List.replicate 19 '9') = some 9999999999999999999 := by decide
    obtain ⟨zeros, hzeros⟩ := (Text.readNumeral_eq_some_iff (by decide)).1 hread
    exact ⟨_, 'h', by decide, htrimmed, by decide, [], zeros, .inl rfl, hzeros⟩
  refine ⟨⟨by decide, by decide, hweeks, ?_⟩, by decide, hhours, ?_⟩
  · obtain ⟨r, hr, hstart, hstop, -, hlength⟩ :=
      ((@relative_ranges_are_exact _ Instant.epoch (by decide) (by decide)).1 _ hweeks).1
        (Time.inCalendar_iff.2 (by decide))
    exact ⟨r, hr, hstart.1, hstop.1, hlength⟩
  · exact ((relative_ranges_are_exact (by decide) (by decide)).1 _ hhours).2 fun h =>
      absurd (Time.inCalendar_iff.1 h) (by decide)

end EventAnalytics
