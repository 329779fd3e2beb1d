/-
Which texts the strict reader takes, and for which instants.

A timestamp is a date that exists, a time of day and an offset, each number
with as many digits as the internet standard gives it; a second may be the
60th, and a fraction of it may have any number of digits, of which nine
count. `Parts.IsTimestamp` says which texts these are and what their parts
are, without reading any.

Every reader of a part takes just the texts of that part, which is told
where the part ends by itself as an equivalence. Together they give the
law, `readStrict_eq_ok_iff`: a text is read as an instant exactly when it
is a timestamp whose parts name the instant. And since the years of
timestamps lie within the calendar, all of them name one
(`isTimestamp_iff`).
-/
import EventAnalytics.Proofs.Outcome
import EventAnalytics.Proofs.Text.Digits
import EventAnalytics.Proofs.Time.Calendar
import EventAnalytics.Time.Reader

namespace EventAnalytics.Time

open Text (digitsValue isDigit padded startsPlain)

-- ========================================================== timestamps

/-- How a fraction of a second is written: by any number of digits, or not
at all. The first nine count, as many as there are, and are nanoseconds. -/
inductive SpellsNanos : Nat → List Char → Prop where
  | none : SpellsNanos 0 []
  | digits {ds : List Char} (hne : ds ≠ []) (hds : ds.all isDigit = true) :
    SpellsNanos (digitsValue (ds.take 9) * 10 ^ (9 - ds.length)) ('.' :: ds)

/-- How the seconds are written by which the clocks of a place are ahead of
universal time. The minus sign may be that of mathematics. -/
inductive SpellsOffset : Int → List Char → Prop where
  | zulu {c : Char} (hc : c ∈ ['Z', 'z']) : SpellsOffset 0 [c]
  | east {hours minutes : Nat} (hhours : hours ≤ 23) (hminutes : minutes ≤ 59) :
    SpellsOffset (hours * 3600 + minutes * 60 : Nat)
      ('+' :: (padded 2 hours ++ ':' :: padded 2 minutes))
  | west {sign : Char} {hours minutes : Nat} (hsign : sign ∈ ['-', '\u2212'])
    (hhours : hours ≤ 23) (hminutes : minutes ≤ 59) :
    SpellsOffset (-(hours * 3600 + minutes * 60 : Nat))
      (sign :: (padded 2 hours ++ ':' :: padded 2 minutes))

/-- The timestamps of some parts. -/
inductive Parts.IsTimestamp : Parts → List Char → Prop where
  | written {year month day hour minute second nanos : Nat} {offset : Int} {separator : Char}
    {fraction zone : List Char} (hyear : year ≤ 9999)
    (hdate : (⟨year, month, day⟩ : Date).exists? = true) (hhour : hour ≤ 23)
    (hminute : minute ≤ 59) (hsecond : second ≤ 60) (hseparator : separator ∈ ['T', 't', ' '])
    (hfraction : SpellsNanos nanos fraction) (hzone : SpellsOffset offset zone) :
    IsTimestamp ⟨year, month, day, hour, minute, second, nanos, offset⟩
      (padded 4 year ++ '-' :: (padded 2 month ++ '-' :: (padded 2 day ++ separator
        :: (padded 2 hour ++ ':' :: (padded 2 minute ++ ':' :: (padded 2 second
        ++ (fraction ++ zone)))))))

/-- The instant that some parts name: a 60th second is the leap second after
the 59th. -/
structure Parts.Names (p : Parts) (t : Instant) : Prop where
  seconds : t.seconds = (⟨p.year, p.month, p.day⟩ : Date).number * 86400
    + (p.hour * 3600 + p.minute * 60 + min p.second 59 : Nat) - p.offset
  nanos : t.nanos = p.nanos + if p.second = 60 then nanosPerSecond else 0

-- ============================================================= numbers

/-- No character takes less than a byte. -/
theorem length_le_byteLength (cs : List Char) : cs.length ≤ byteLength cs := by
  induction cs with
  | nil => simp
  | cons c r ih =>
    have hc := c.utf8Size_pos
    have hcons : byteLength (c :: r) = c.utf8Size + byteLength r := by
      unfold byteLength
      rw [← List.singleton_append, String.ofList_append, String.utf8ByteSize_append,
        ← String.singleton_eq_ofList, String.utf8ByteSize_singleton]
    rw [List.length_cons, hcons]
    omega

/-- Digits at the front that fill the window, or end inside it. -/
theorem readNumber_digits {least : Nat} {most : Nat} {ds cs : List Char}
    (hds : ds.all isDigit = true) (hleast : least ≤ ds.length) (hmost : ds.length ≤ most)
    (hcs : ds.length = most ∨ startsPlain cs = true) :
    readNumber least (some most) (ds ++ cs) = .ok (Text.digitsValue ds, cs) := by
  have hwindow : ((ds ++ cs).take most).takeWhile isDigit = ds := by
    rw [List.take_append, List.take_of_length_le hmost]
    apply Text.takeWhile_digits hds
    rcases hcs with hfull | hplain
    · rw [hfull, Nat.sub_self]
      rfl
    · cases cs with
      | nil => rw [List.take_nil]; rfl
      | cons c r =>
        cases most - ds.length with
        | zero => rfl
        | succ k => exact hplain
  have hbytes : ¬ byteLength (ds ++ cs) < least := by
    have := length_le_byteLength (ds ++ cs)
    rw [List.length_append] at this
    omega
  unfold readNumber
  simp only [hwindow]
  rw [if_neg hbytes, if_neg (by omega), List.drop_left]

/-- A padded number is read back from a window of its width. -/
theorem readNumber_padded {w n : Nat} (hw : 0 < w) (h : n < 10 ^ w) (cs : List Char) :
    readNumber w (some w) (padded w n ++ cs) = .ok (n, cs) := by
  have hlength := Text.length_padded hw h
  rw [readNumber_digits (Text.all_isDigit_padded w n) (by omega) (by omega) (.inl hlength),
    Text.digitsValue_padded]

theorem readTwo_padded {n : Nat} (h : n < 100) (cs : List Char) :
    readTwo (padded 2 n ++ cs) = .ok (n, cs) :=
  readNumber_padded (by decide) h cs

/-- What is read as a number are digits at the front: as many as there are,
unless they fill the window. -/
theorem digits_of_readNumber {least most n : Nat} {cs r : List Char}
    (h : readNumber least (some most) cs = .ok (n, r)) :
    ∃ ds, cs = ds ++ r ∧ ds.all isDigit = true ∧ n = digitsValue ds ∧ least ≤ ds.length
      ∧ ds.length ≤ most ∧ ds = (cs.take most).takeWhile isDigit := by
  unfold readNumber at h
  simp only at h
  split at h
  · cases h
  split at h
  · cases h
  next hleast =>
  cases h
  have hfront : (cs.take most).takeWhile isDigit <+: cs :=
    (List.takeWhile_prefix isDigit).trans (List.take_prefix most cs)
  have hlength : ((cs.take most).takeWhile isDigit).length ≤ most :=
    Nat.le_trans (List.takeWhile_prefix isDigit).length_le (List.length_take_le most cs)
  exact ⟨_, (List.prefix_iff_eq_append.1 hfront).symm, List.all_takeWhile, rfl,
    Nat.not_lt.1 hleast, hlength, rfl⟩

/-- A number of a fixed width is read from its padded numeral only. -/
theorem readNumber_eq_ok_iff {w n : Nat} (hw : 0 < w) {cs r : List Char} :
    readNumber w (some w) cs = .ok (n, r) ↔ n < 10 ^ w ∧ cs = padded w n ++ r := by
  constructor
  · intro h
    obtain ⟨ds, rfl, hds, rfl, hleast, hmost, -⟩ := digits_of_readNumber h
    have hlength : ds.length = w := Nat.le_antisymm hmost hleast
    have hne : ds ≠ [] := List.length_pos_iff.1 (hlength ▸ hw)
    rw [← hlength, Text.padded_digitsValue hne hds]
    exact ⟨Text.digitsValue_lt hds, rfl⟩
  · intro h
    obtain ⟨hlt, rfl⟩ := h
    exact readNumber_padded hw hlt r

/-- Two digits are read just where they stand. -/
theorem readTwo_eq_ok_iff {n : Nat} {cs r : List Char} :
    readTwo cs = .ok (n, r) ↔ n < 100 ∧ cs = padded 2 n ++ r :=
  readNumber_eq_ok_iff (by decide)

/-- A check of bounds passes just within them. -/
theorem within_eq_ok_iff {lo hi n : Nat} {u : Unit} : within lo hi n = .ok u ↔ lo ≤ n ∧ n ≤ hi := by
  unfold within
  split
  · next h => exact iff_of_true rfl h
  · next h => exact iff_of_false nofun h

theorem within_ok {lo hi n : Nat} (hlo : lo ≤ n) (hhi : n ≤ hi) : within lo hi n = .ok () :=
  within_eq_ok_iff.2 ⟨hlo, hhi⟩

-- ======================================================== separators

/-- A character is read just where it stands. -/
theorem readChar_eq_ok_iff {c : Char} {cs r : List Char} : readChar c cs = .ok r ↔ cs = c :: r := by
  cases cs with
  | nil => exact iff_of_false nofun nofun
  | cons d s =>
    unfold readChar
    by_cases hd : d = c
    · simp [hd]
    · simp [hd]

theorem readChar_cons (c : Char) (cs : List Char) : readChar c (c :: cs) = .ok cs :=
  readChar_eq_ok_iff.2 rfl

/-- Between date and time stands a `T`, large or small, or a blank. -/
theorem readSeparator_eq_ok_iff {cs r : List Char} :
    readSeparator cs = .ok r ↔ ∃ separator ∈ ['T', 't', ' '], cs = separator :: r := by
  cases cs with
  | nil => exact iff_of_false nofun (by simp)
  | cons c s =>
    simp only [readSeparator, List.mem_cons, List.not_mem_nil, or_false, List.cons.injEq]
    by_cases hc : c = 'T' ∨ c = 't' ∨ c = ' '
    · rw [if_pos hc]
      simp [hc]
    · rw [if_neg hc]
      simp [hc]

-- ========================================================== fractions

/-- A fraction of a second is less than a second. -/
theorem SpellsNanos.lt {n : Nat} {fraction : List Char} (h : SpellsNanos n fraction) :
    n < nanosPerSecond := by
  cases h with
  | none => decide
  | @digits ds hne hds =>
    have hfirst : (ds.take 9).all isDigit = true := by
      rw [List.all_eq_true] at hds ⊢
      exact fun c hc => hds c (List.mem_of_mem_take hc)
    have hlt := Text.digitsValue_lt hfirst
    rw [List.length_take] at hlt
    have hnine : nanosPerSecond = 10 ^ min 9 ds.length * 10 ^ (9 - ds.length) := by
      rw [← Nat.pow_add]
      have hsum : min 9 ds.length + (9 - ds.length) = 9 := by omega
      rw [hsum]
      rfl
    rw [hnine]
    exact Nat.mul_lt_mul_of_pos_right hlt (Nat.pow_pos (by decide))

/-- A fraction is read up to what is no digit. -/
theorem readFraction_of_spells {n : Nat} {fraction cs : List Char} (h : SpellsNanos n fraction)
    (hcs : startsPlain cs = true) (hdot : cs.head? ≠ some '.') :
    readFraction (fraction ++ cs) = .ok (n, cs) := by
  cases h with
  | none =>
    rw [List.nil_append]
    unfold readFraction
    split
    · exact absurd rfl hdot
    · rfl
  | @digits ds hne hds =>
    have hfirst : (ds.take 9).all isDigit = true := by
      rw [List.all_eq_true] at hds ⊢
      exact fun c hc => hds c (List.mem_of_mem_take hc)
    have hrest : (ds.drop 9).all isDigit = true := by
      rw [List.all_eq_true] at hds ⊢
      exact fun c hc => hds c (List.mem_of_mem_drop hc)
    -- nine digits are read as a number at most, and the rest is passed over
    have hnumber : readNumber 1 (some 9) (ds ++ cs)
        = .ok (digitsValue (ds.take 9), ds.drop 9 ++ cs) := by
      nth_rewrite 1 [← List.take_append_drop 9 ds]
      rw [List.append_assoc]
      refine readNumber_digits hfirst ?_ (List.length_take_le 9 ds) ?_
      · rw [List.length_take]
        have := List.length_pos_iff.2 hne
        omega
      · by_cases hlong : 9 ≤ ds.length
        · exact .inl (List.length_take_of_le hlong)
        · rw [List.drop_eq_nil_of_le (by omega)]
          exact .inr hcs
    have hused : 9 - ((ds ++ cs).length - (ds.drop 9 ++ cs).length) = 9 - ds.length := by
      rw [List.length_append, List.length_append, List.length_drop]
      omega
    show (readNumber 1 (some 9) (ds ++ cs) >>= _) = _
    rw [hnumber]
    show Except.ok (digitsValue (ds.take 9)
      * Nat.pow 10 (9 - ((ds ++ cs).length - (ds.drop 9 ++ cs).length)),
      (ds.drop 9 ++ cs).dropWhile isDigit) = _
    rw [hused, Text.dropWhile_digits hrest hcs]
    rfl

/-- What is read as a fraction is one. -/
theorem spells_of_readFraction {n : Nat} {cs r : List Char} (h : readFraction cs = .ok (n, r)) :
    ∃ fraction, cs = fraction ++ r ∧ SpellsNanos n fraction := by
  unfold readFraction at h
  split at h
  · next cs =>
    obtain ⟨⟨v, rest⟩, hnumber, h⟩ := bind_eq_ok h
    cases h
    obtain ⟨ds, hcs, hds, hv, hleast, -, hfirst⟩ := digits_of_readNumber hnumber
    -- the digits that were counted and those that are passed over
    have hall : cs = cs.takeWhile isDigit ++ rest.dropWhile isDigit := by
      have hdrop : cs.dropWhile isDigit = rest.dropWhile isDigit := by
        nth_rewrite 1 [hcs]
        rw [List.dropWhile_append_of_pos (List.all_eq_true.1 hds)]
      nth_rewrite 1 [← List.takeWhile_append_dropWhile (p := isDigit) (l := cs)]
      rw [hdrop]
    have htake : (cs.takeWhile isDigit).take 9 = ds := by
      rw [hfirst, List.take_takeWhile]
    have hlength : 9 - (cs.length - rest.length) = 9 - (cs.takeWhile isDigit).length := by
      have hused : cs.length - rest.length = ds.length := by
        have := congrArg List.length hcs
        rw [List.length_append] at this
        omega
      rw [hused, ← htake, List.length_take]
      omega
    have hne : cs.takeWhile isDigit ≠ [] := by
      intro hnil
      rw [hnil] at htake
      rw [← htake] at hleast
      exact absurd hleast (by decide)
    refine ⟨'.' :: cs.takeWhile isDigit, congrArg ('.' :: ·) hall, ?_⟩
    have hspells := SpellsNanos.digits hne List.all_takeWhile
    rw [htake, ← hlength] at hspells
    rw [hv]
    exact hspells
  · cases h
    exact ⟨[], rfl, .none⟩

-- ============================================================ offsets

/-- Two digits of an offset are read from their padded numeral only. -/
theorem offsetDigits_eq_ok_iff {n : Nat} {cs r : List Char} :
    offsetDigits cs = .ok (n, r) ↔ n < 100 ∧ cs = padded 2 n ++ r := by
  constructor
  · intro h
    -- a shorter text than two bytes is refused before its characters are
    -- looked at
    unfold offsetDigits at h
    split at h
    · cases h
    split at h
    · next a b rest hshort =>
      split at h
      · next hdigits =>
        cases h
        rw [Bool.and_eq_true] at hdigits
        have hall : [a, b].all isDigit = true := by simp [hdigits]
        have hpadded : padded 2 (digitsValue [a, b]) = [a, b] :=
          Text.padded_digitsValue (List.cons_ne_nil a [b]) hall
        rw [hpadded]
        exact ⟨Text.digitsValue_lt hall, rfl⟩
      · cases h
    · cases h
  · intro h
    obtain ⟨hlt, rfl⟩ := h
    have hlength := Text.length_padded (w := 2) (by decide) hlt
    have hdigits := Text.all_isDigit_padded 2 n
    have hvalue := Text.digitsValue_padded 2 n
    obtain ⟨a, b, hform⟩ : ∃ a b, padded 2 n = [a, b] := by
      match padded 2 n, hlength with
      | [a, b], _ => exact ⟨a, b, rfl⟩
    rw [hform] at hdigits hvalue ⊢
    -- two characters have at least two bytes, so that the first check passes
    have hbytes : ¬ byteLength ([a, b] ++ r) < 2 := by
      have := length_le_byteLength ([a, b] ++ r)
      rw [List.length_append] at this
      exact Nat.not_lt.2 (Nat.le_trans (Nat.le_add_right 2 _) this)
    have hboth : (isDigit a && isDigit b) = true := by simpa using hdigits
    unfold offsetDigits
    rw [if_neg hbytes]
    show (if isDigit a && isDigit b then Except.ok (Text.digitsValue [a, b], r)
      else Except.error ReadFault.invalid) = _
    rw [if_pos hboth, hvalue]

theorem offsetDigits_padded {n : Nat} (h : n < 100) (cs : List Char) :
    offsetDigits (padded 2 n ++ cs) = .ok (n, cs) :=
  offsetDigits_eq_ok_iff.2 ⟨h, rfl⟩

/-- The sign of an offset is a plus for the east, a hyphen or a minus for the
west. -/
theorem sign_of_readSign {west : Bool} {cs r : List Char} (h : readSign cs = .ok (west, r)) :
    (west = false ∧ cs = '+' :: r) ∨ (west = true ∧ ∃ sign ∈ ['-', '\u2212'], cs = sign :: r) := by
  unfold readSign at h
  split at h
  · cases h
  · cases h
    exact .inl ⟨rfl, rfl⟩
  · cases h
    exact .inr ⟨rfl, '-', by simp, rfl⟩
  · cases h
    exact .inr ⟨rfl, '\u2212', by simp, rfl⟩
  · cases h

/-- An offset is read from all of its texts, and is less than a day. -/
theorem readOffset_of_spells {offset : Int} {zone : List Char} (h : SpellsOffset offset zone)
    (r : List Char) :
    readOffset (readChar ':') (zone ++ r) = .ok (offset, r) ∧ offset.natAbs ≤ 86340 := by
  -- hours and minutes are read in the same way on either side of the sign
  have hparts : ∀ {hours minutes : Nat}, hours ≤ 23 → minutes ≤ 59 →
      offsetDigits (padded 2 hours ++ ':' :: (padded 2 minutes ++ r))
          = .ok (hours, ':' :: (padded 2 minutes ++ r))
        ∧ offsetDigits (padded 2 minutes ++ r) = .ok (minutes, r) ∧ ¬ 60 ≤ minutes := by
    intro hours minutes hhours hminutes
    exact ⟨offsetDigits_padded (by omega) _, offsetDigits_padded (by omega) _, by omega⟩
  cases h with
  | zulu hc =>
    simp only [List.mem_cons, List.not_mem_nil, or_false] at hc
    rcases hc with rfl | rfl <;> exact ⟨rfl, by decide⟩
  | @east hours minutes hhours hminutes =>
    obtain ⟨hfirst, hlast, hsmall⟩ := hparts hhours hminutes
    refine ⟨?_, by omega⟩
    simp only [List.cons_append, List.append_assoc, readOffset, readSign, hfirst, hlast, hsmall,
      readChar_cons, if_false, bind, Except.bind, pure, Except.pure]
    rfl
  | @west sign hours minutes hsign hhours hminutes =>
    obtain ⟨hfirst, hlast, hsmall⟩ := hparts hhours hminutes
    refine ⟨?_, by omega⟩
    simp only [List.mem_cons, List.not_mem_nil, or_false] at hsign
    rcases hsign with rfl | rfl
    · simp only [List.cons_append, List.append_assoc, readOffset, readSign, hfirst, hlast, hsmall,
        readChar_cons, if_true, if_false, bind, Except.bind, pure, Except.pure]
      rfl
    · simp only [List.cons_append, List.append_assoc, readOffset, readSign, hfirst, hlast, hsmall,
        readChar_cons, if_true, if_false, bind, Except.bind, pure, Except.pure]
      rfl

/-- What is read as an offset of less than a day is one. -/
theorem spells_of_readOffset {offset : Int} {cs r : List Char}
    (h : readOffset (readChar ':') cs = .ok (offset, r)) (hnear : offset.natAbs ≤ 86340) :
    ∃ zone, cs = zone ++ r ∧ SpellsOffset offset zone := by
  unfold readOffset at h
  split at h
  · cases h
    exact ⟨['Z'], rfl, .zulu (by simp)⟩
  · cases h
    exact ⟨['z'], rfl, .zulu (by simp)⟩
  · obtain ⟨⟨west, r₁⟩, hsign, h₁⟩ := bind_eq_ok h
    obtain ⟨⟨hours, r₂⟩, hhours, h₂⟩ := bind_eq_ok h₁
    obtain ⟨r₃, hcolon, h₃⟩ := bind_eq_ok h₂
    obtain ⟨⟨minutes, r₄⟩, hminutes, h₄⟩ := bind_eq_ok h₃
    -- the last link is the check of the minutes, and hides what is answered
    have hend : (if 60 ≤ minutes then Except.error ReadFault.outOfRange
        else Except.ok (if west then -((hours : Int) * 3600 + minutes * 60)
          else (hours : Int) * 3600 + minutes * 60, r₄)) = Except.ok (offset, r) := h₄
    by_cases hsmall : 60 ≤ minutes
    · rw [if_pos hsmall] at hend
      cases hend
    rw [if_neg hsmall] at hend
    cases hend
    obtain ⟨-, rfl⟩ := offsetDigits_eq_ok_iff.1 hhours
    obtain rfl := readChar_eq_ok_iff.1 hcolon
    obtain ⟨-, rfl⟩ := offsetDigits_eq_ok_iff.1 hminutes
    rcases sign_of_readSign hsign with ⟨rfl, rfl⟩ | ⟨rfl, sign, hmem, rfl⟩
    · simp only [Bool.false_eq_true, if_false] at hnear ⊢
      refine ⟨'+' :: (padded 2 hours ++ ':' :: padded 2 minutes), by simp, ?_⟩
      exact .east (by omega) (by omega)
    · simp only [if_true] at hnear ⊢
      refine ⟨sign :: (padded 2 hours ++ ':' :: padded 2 minutes), by simp, ?_⟩
      exact .west hmem (by omega) (by omega)

-- ============================================================== bounds

/-- The months have at most 31 days, and there are twelve. -/
theorem Date.bounds_of_exists {d : Date} (h : d.exists? = true) :
    (1 ≤ d.month ∧ d.month ≤ 12) ∧ 1 ≤ d.day ∧ d.day ≤ 31 := by
  unfold Date.exists? Date.monthLength? at h
  by_cases hm : d.month = 0
  · simp [hm] at h
  · rw [if_neg hm] at h
    cases hl : (monthLengths (isLeapYear d.year))[d.month - 1]? with
    | none => simp [hl] at h
    | some l =>
      simp only [hl, Bool.and_eq_true, decide_eq_true_eq] at h
      obtain ⟨hlt, hget⟩ := List.getElem?_eq_some_iff.1 hl
      have hlong : ∀ l ∈ monthLengths (isLeapYear d.year), l ≤ 31 := by
        cases isLeapYear d.year <;> decide
      have hl31 : l ≤ 31 := hlong l (List.mem_of_getElem? hl)
      have htwelve : (monthLengths (isLeapYear d.year)).length = 12 := rfl
      omega

/-- A date with a year of four digits lies within the calendar. -/
theorem Date.number_bounds {d : Date} (h : d.exists? = true) (hyear : 0 ≤ d.year ∧ d.year ≤ 9999) :
    -719528 ≤ d.number ∧ d.number < 2932897 := by
  have hsame : yearOfDay d.number = d.year := congrArg Date.year (Date.ofNumber_number h)
  have hfirst : firstDayNumber 0 = -719528 := by decide
  have hlast : firstDayNumber 10000 = 2932897 := by decide
  constructor
  · rw [← hfirst, ← le_yearOfDay_iff, hsame]
    exact hyear.1
  · have hlow : ¬ 10000 ≤ yearOfDay d.number := by omega
    rw [le_yearOfDay_iff, hlast] at hlow
    exact Int.not_le.1 hlow

/-- A date of the calendar has its number. -/
theorem Date.dayNumber?_eq_some {d : Date} (h : d.exists? = true)
    (hyear : -262143 ≤ d.year ∧ d.year ≤ 262142) :
    dayNumber? d.year d.month d.day = some d.number := by
  unfold dayNumber?
  simp only
  rw [if_pos]
  simp [h, hyear]

-- ============================================================= instants

namespace Parts

variable {p : Parts} {cs : List Char} {t : Instant}

/-- Whole minutes lie between the clocks of a place and universal time. -/
theorem exists_minutes {offset : Int} {zone : List Char} (h : SpellsOffset offset zone) :
    ∃ k : Int, offset = 60 * k := by
  cases h with
  | zulu => exact ⟨0, rfl⟩
  | @east hours minutes => exact ⟨hours * 60 + minutes, by omega⟩
  | @west sign hours minutes => exact ⟨-(hours * 60 + minutes), by omega⟩

/-- The parts of a timestamp name an instant. -/
theorem IsTimestamp.exists_names (h : p.IsTimestamp cs) : ∃ t, p.Names t := by
  cases h with
  | @written year month day hour minute second nanos offset separator fraction zone hyear hdate
      hhour hminute hsecond hseparator hfraction hzone =>
    obtain ⟨hlow, hhigh⟩ := Date.number_bounds hdate ⟨Int.natCast_nonneg year, Int.ofNat_le.2 hyear⟩
    obtain ⟨minutes, hminutes⟩ := exists_minutes hzone
    have hnear := (readOffset_of_spells hzone []).2
    have hnanos := hfraction.lt
    -- the seconds without a leap second, and the nanoseconds that count one
    -- on
    let seconds : Int := (⟨year, month, day⟩ : Date).number * 86400
      + (hour * 3600 + minute * 60 + min second 59 : Nat) - offset
    let counted := nanos + if second = 60 then nanosPerSecond else 0
    have hfirst : firstSecond ≤ seconds := by
      unfold firstSecond
      omega
    have hlast : seconds ≤ lastSecond := by
      unfold lastSecond
      omega
    have hless : counted < 2 * nanosPerSecond := by
      show nanos + (if second = 60 then nanosPerSecond else 0) < 2 * nanosPerSecond
      split <;> omega
    -- a second is counted on only where 60 is written, and then 59 is shown
    have hleap : nanosPerSecond ≤ counted → seconds % 60 = 59 := by
      intro hlong
      have hsixty : second = 60 := by
        by_contra hne
        have hlong : nanosPerSecond ≤ nanos + (if second = 60 then nanosPerSecond else 0) := hlong
        rw [if_neg hne] at hlong
        omega
      omega
    exact ⟨⟨seconds, counted, hfirst, hlast, hless, hleap⟩, rfl, rfl⟩

/-- The parts name one instant. -/
theorem Names.unique {t' : Instant} (h : p.Names t) (h' : p.Names t') : t = t' :=
  Instant.eq_of_fields (h.seconds.trans h'.seconds.symm) (h.nanos.trans h'.nanos.symm)

/-- It is what they are made into, when the date is one of the calendar. -/
theorem Names.instant (h : p.Names t) (hdate : (⟨p.year, p.month, p.day⟩ : Date).exists? = true)
    (hyear : -262143 ≤ p.year ∧ p.year ≤ 262142) (hsecond : p.second ≤ 60)
    (hoffset : p.offset.natAbs ≤ 86340) : p.instant = .ok t := by
  have hday : dayNumber? p.year p.month p.day
      = some (⟨p.year, p.month, p.day⟩ : Date).number := Date.dayNumber?_eq_some hdate hyear
  have hnear : ¬ (p.offset ≤ -86400 ∨ 86400 ≤ p.offset) := by omega
  have hof := t.of?_fields
  rw [h.seconds, h.nanos] at hof
  unfold Parts.instant
  simp only [hday]
  rw [if_neg hnear]
  -- a leap second is kept in the nanoseconds of the second before
  by_cases hleap : p.second = 60
  · have hlast : min 60 59 = 59 := rfl
    simp only [hleap, hlast, if_true] at hof ⊢
    rw [Nat.add_comm nanosPerSecond, hof]
  · have hshown : min p.second 59 = p.second := by omega
    simp only [hleap, hshown, if_false, Nat.add_zero] at hof ⊢
    rw [hof]

/-- The parts of a timestamp are made into the instant that they name. -/
theorem IsTimestamp.instant_eq_ok_iff (h : p.IsTimestamp cs) : p.instant = .ok t ↔ p.Names t := by
  obtain ⟨named, hnamed⟩ := h.exists_names
  have hinstant : p.instant = .ok named := by
    cases h with
    | @written year month day hour minute second nanos offset separator fraction zone hyear hdate
        hhour hminute hsecond hseparator hfraction hzone =>
      have hcalendar : -262143 ≤ (year : Int) ∧ (year : Int) ≤ 262142 := by omega
      exact hnamed.instant hdate hcalendar hsecond (readOffset_of_spells hzone []).2
  rw [hinstant]
  constructor
  · intro hsame
    cases hsame
    exact hnamed
  · intro hnames
    rw [hnamed.unique hnames]

end Parts

-- ============================================================= the law

/-- The parts of a timestamp are read from it. -/
theorem readStrictParts_of_isTimestamp {p : Parts} {cs : List Char} (h : p.IsTimestamp cs) :
    readStrictParts cs = .ok (p, []) := by
  cases h with
  | @written year month day hour minute second nanos offset separator fraction zone hyear hdate
      hhour hminute hsecond hseparator hfraction hzone =>
    obtain ⟨⟨hmonth1, hmonth2⟩, hday1, hday2⟩ := Date.bounds_of_exists hdate
    have hyear : ∀ cs, readNumber 4 (some 4) (padded 4 year ++ cs) = .ok (year, cs) :=
      readNumber_padded (by decide) (by omega)
    have hmonth : ∀ cs, readTwo (padded 2 month ++ cs) = .ok (month, cs) :=
      readTwo_padded (Nat.lt_of_le_of_lt hmonth2 (by decide))
    have hday : ∀ cs, readTwo (padded 2 day ++ cs) = .ok (day, cs) :=
      readTwo_padded (Nat.lt_of_le_of_lt hday2 (by decide))
    have hhour' : ∀ cs, readTwo (padded 2 hour ++ cs) = .ok (hour, cs) := readTwo_padded (by omega)
    have hminute' : ∀ cs, readTwo (padded 2 minute ++ cs) = .ok (minute, cs) :=
      readTwo_padded (by omega)
    have hsecond' : ∀ cs, readTwo (padded 2 second ++ cs) = .ok (second, cs) :=
      readTwo_padded (by omega)
    have hbetween : ∀ cs, readSeparator (separator :: cs) = .ok cs := fun cs =>
      readSeparator_eq_ok_iff.2 ⟨separator, hseparator, rfl⟩
    -- a zone starts with a sign or a letter, so that a fraction ends before it
    have hplain : startsPlain zone = true ∧ zone.head? ≠ some '.' := by
      cases hzone with
      | zulu hc =>
        simp only [List.mem_cons, List.not_mem_nil, or_false] at hc
        rcases hc with rfl | rfl <;> exact ⟨rfl, by decide⟩
      | east => exact ⟨rfl, by simp⟩
      | west hsign =>
        simp only [List.mem_cons, List.not_mem_nil, or_false] at hsign
        rcases hsign with rfl | rfl <;> exact ⟨rfl, by simp⟩
    have hnanos := readFraction_of_spells hfraction hplain.1 hplain.2
    obtain ⟨hoffset, hnear⟩ := readOffset_of_spells hzone []
    rw [List.append_nil] at hoffset
    unfold readStrictParts
    simp only [hyear, hmonth, hday, hhour', hminute', hsecond', hnanos, hoffset, hbetween,
      readChar_cons, within_ok hmonth1 hmonth2, within_ok hday1 hday2,
      within_ok (Nat.zero_le _) hhour, within_ok (Nat.zero_le _) hminute,
      within_ok (Nat.zero_le _) hsecond, bind, Except.bind, pure, Except.pure]
    rw [if_neg (Nat.not_lt.2 hnear)]

/-- What is read as the parts of a date that exists is a timestamp. -/
theorem isTimestamp_of_readStrictParts {p : Parts} {cs : List Char}
    (h : readStrictParts cs = .ok (p, []))
    (hdate : (⟨p.year, p.month, p.day⟩ : Date).exists? = true) : p.IsTimestamp cs := by
  unfold readStrictParts at h
  -- the reader is a chain; each link is named by what it leaves
  obtain ⟨⟨year, r₁⟩, hyear, h₁⟩ := bind_eq_ok h
  obtain ⟨r₂, hdash, h₂⟩ := bind_eq_ok h₁
  obtain ⟨⟨month, r₃⟩, hmonth, h₃⟩ := bind_eq_ok h₂
  obtain ⟨_, -, h₄⟩ := bind_eq_ok h₃
  obtain ⟨r₄, hdash', h₅⟩ := bind_eq_ok h₄
  obtain ⟨⟨day, r₅⟩, hday, h₆⟩ := bind_eq_ok h₅
  obtain ⟨_, -, h₇⟩ := bind_eq_ok h₆
  obtain ⟨r₆, hseparator, h₈⟩ := bind_eq_ok h₇
  obtain ⟨⟨hour, r₇⟩, hhour, h₉⟩ := bind_eq_ok h₈
  obtain ⟨_, hhour23, h₁₀⟩ := bind_eq_ok h₉
  obtain ⟨r₈, hcolon, h₁₁⟩ := bind_eq_ok h₁₀
  obtain ⟨⟨minute, r₉⟩, hminute, h₁₂⟩ := bind_eq_ok h₁₁
  obtain ⟨_, hminute59, h₁₃⟩ := bind_eq_ok h₁₂
  obtain ⟨r₁₀, hcolon', h₁₄⟩ := bind_eq_ok h₁₃
  obtain ⟨⟨second, r₁₁⟩, hsecond, h₁₅⟩ := bind_eq_ok h₁₄
  obtain ⟨_, hsecond60, h₁₆⟩ := bind_eq_ok h₁₅
  obtain ⟨⟨nanos, r₁₂⟩, hnanos, h₁₇⟩ := bind_eq_ok h₁₆
  obtain ⟨⟨offset, r₁₃⟩, hoffset, h₁₈⟩ := bind_eq_ok h₁₇
  have hend : (if 86340 < offset.natAbs then Except.error ReadFault.outOfRange
      else Except.ok ((⟨year, month, day, hour, minute, second, nanos, offset⟩ : Parts), r₁₃))
      = Except.ok (p, []) := h₁₈
  by_cases hfar : 86340 < offset.natAbs
  · rw [if_pos hfar] at hend
    cases hend
  rw [if_neg hfar] at hend
  cases hend
  -- backwards, each link tells what stood in front of what it left
  obtain ⟨hyear, rfl⟩ := (readNumber_eq_ok_iff (by decide)).1 hyear
  obtain rfl := readChar_eq_ok_iff.1 hdash
  obtain ⟨-, rfl⟩ := readTwo_eq_ok_iff.1 hmonth
  obtain rfl := readChar_eq_ok_iff.1 hdash'
  obtain ⟨-, rfl⟩ := readTwo_eq_ok_iff.1 hday
  obtain ⟨separator, hmem, rfl⟩ := readSeparator_eq_ok_iff.1 hseparator
  obtain ⟨-, rfl⟩ := readTwo_eq_ok_iff.1 hhour
  obtain rfl := readChar_eq_ok_iff.1 hcolon
  obtain ⟨-, rfl⟩ := readTwo_eq_ok_iff.1 hminute
  obtain rfl := readChar_eq_ok_iff.1 hcolon'
  obtain ⟨-, rfl⟩ := readTwo_eq_ok_iff.1 hsecond
  obtain ⟨fraction, rfl, hfraction⟩ := spells_of_readFraction hnanos
  obtain ⟨zone, rfl, hzone⟩ := spells_of_readOffset hoffset (Nat.not_lt.1 hfar)
  rw [List.append_nil]
  exact .written (by omega) hdate (within_eq_ok_iff.1 hhour23).2 (within_eq_ok_iff.1 hminute59).2
    (within_eq_ok_iff.1 hsecond60).2 hmem hfraction hzone

/-- The timestamps, without what they name. -/
def IsTimestamp (s : String) : Prop := ∃ p : Parts, p.IsTimestamp s.toList

/-- The timestamps of an instant. -/
def IsTimestampOf (s : String) (t : Instant) : Prop :=
  ∃ p : Parts, p.IsTimestamp s.toList ∧ p.Names t

/-- A text is read as the instant that it is a timestamp of. -/
theorem readStrict_eq_ok_iff {s : String} {t : Instant} :
    readStrict s = .ok t ↔ IsTimestampOf s t := by
  constructor
  · intro h
    obtain ⟨⟨p, r⟩, hparts, h₁⟩ := bind_eq_ok h
    have hend : (if r ≠ [] then Except.error ReadFault.trailing else p.instant) = .ok t := h₁
    by_cases hr : r = []
    · subst hr
      rw [if_neg (by simp)] at hend
      have hdate : (⟨p.year, p.month, p.day⟩ : Date).exists? = true := by
        have hinstant := hend
        unfold Parts.instant dayNumber? at hinstant
        by_contra hnone
        simp [hnone] at hinstant
      have hp := isTimestamp_of_readStrictParts hparts hdate
      exact ⟨p, hp, hp.instant_eq_ok_iff.1 hend⟩
    · rw [if_pos hr] at hend
      cases hend
  · intro h
    obtain ⟨p, hp, hnames⟩ := h
    unfold readStrict
    rw [readStrictParts_of_isTimestamp hp]
    exact hp.instant_eq_ok_iff.2 hnames

/-- Every timestamp is one of an instant. -/
theorem isTimestamp_iff {s : String} : IsTimestamp s ↔ ∃ t, IsTimestampOf s t := by
  constructor
  · intro h
    obtain ⟨p, hp⟩ := h
    obtain ⟨t, hnames⟩ := hp.exists_names
    exact ⟨t, p, hp, hnames⟩
  · intro h
    obtain ⟨t, p, hp, -⟩ := h
    exact ⟨p, hp⟩

/-- Whether a text is a timestamp is found by reading it. -/
instance (s : String) : Decidable (IsTimestamp s) :=
  decidable_of_iff ((readStrict s).isOk = true) <| by
    simp only [isTimestamp_iff, ← readStrict_eq_ok_iff]
    cases readStrict s <;> simp [Except.isOk, Except.toBool]

end EventAnalytics.Time
