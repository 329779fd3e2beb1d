/-
Instants as the literals of a statement, and what the loose reader makes
of written instants.

A literal names a second and leaves out what lies past it
(`Instant.wholeSecond`); a leap second is a second of its own. That is all
it loses: `readLoose_sqlText` says that every literal is read back as the
whole second of its instant, also where the year has a sign. The
interchange form with `Z` keeps the fraction, so from it every instant
comes back (`readLoose_zuluText`). Both are read part by part by one lemma,
`readLooseParts_written`.

The whole second of an instant is the last one that is not after it, so
that taking it respects the order of time.
-/
import EventAnalytics.Proofs.Text.Letters
import EventAnalytics.Proofs.Time.Reading

namespace EventAnalytics.Time

open Text (isDigit padded startsPlain trimLeft)

namespace Instant

-- =============================================================== order

theorem le_refl (a : Instant) : a ≤ a := le_iff.2 (.inr ⟨rfl, Nat.le_refl _⟩)

theorem le_trans {a b c : Instant} (hab : a ≤ b) (hbc : b ≤ c) : a ≤ c := by
  rw [le_iff] at *
  omega

/-- Two instants that are neither before nor after each other are the
same. -/
theorem le_antisymm {a b : Instant} (hab : a ≤ b) (hba : b ≤ a) : a = b := by
  rw [le_iff] at *
  exact eq_of_fields (by omega) (by omega)

-- ======================================================= whole seconds

/-- An instant without the fraction of its second. -/
def wholeSecond (t : Instant) : Instant where
  seconds := t.seconds
  nanos := t.nanos - t.shownNanos
  first_le := t.first_le
  le_last := t.le_last
  nanos_lt := Nat.lt_of_le_of_lt (Nat.sub_le _ _) t.nanos_lt
  leap_at_59 := fun h => t.leap_at_59 (Nat.le_trans h (Nat.sub_le _ _))

/-- Of the nanoseconds only a leap second's own billion is left. -/
theorem nanos_wholeSecond (t : Instant) :
    t.wholeSecond.nanos = if t.isLeap then nanosPerSecond else 0 := by
  have hlt := t.nanos_lt
  show t.nanos - t.nanos % nanosPerSecond = _
  unfold isLeap nanosPerSecond at *
  by_cases hleap : 1000000000 ≤ t.nanos
  · rw [if_pos (decide_eq_true hleap)]
    omega
  · have hnone : ¬decide (1000000000 ≤ t.nanos) = true := by
      intro h
      exact hleap (of_decide_eq_true h)
    rw [if_neg hnone]
    omega

theorem isLeap_wholeSecond (t : Instant) : t.wholeSecond.isLeap = t.isLeap := by
  have hnanos := t.nanos_wholeSecond
  unfold isLeap at hnanos ⊢
  rw [hnanos]
  cases decide (nanosPerSecond ≤ t.nanos) <;> rfl

theorem shownNanos_wholeSecond (t : Instant) : t.wholeSecond.shownNanos = 0 := by
  unfold shownNanos
  rw [t.nanos_wholeSecond]
  split <;> rfl

/-- An instant is its own whole second when it has no fraction. -/
theorem wholeSecond_eq_self_iff {t : Instant} : t.wholeSecond = t ↔ t.shownNanos = 0 := by
  constructor
  · intro h
    rw [← h]
    exact t.shownNanos_wholeSecond
  · intro h
    have hnanos : t.nanos - t.shownNanos = t.nanos := by rw [h, Nat.sub_zero]
    exact eq_of_fields rfl hnanos

/-- The whole second of an instant is not after it. -/
theorem wholeSecond_le (t : Instant) : t.wholeSecond ≤ t :=
  le_iff.2 (.inr ⟨rfl, Nat.sub_le _ _⟩)

/-- Whole seconds keep the order of instants. -/
theorem wholeSecond_mono {a b : Instant} (h : a ≤ b) : a.wholeSecond ≤ b.wholeSecond := by
  rw [le_iff] at *
  rcases h with hlt | ⟨heq, hle⟩
  · exact .inl hlt
  · refine .inr ⟨heq, ?_⟩
    show a.nanos - a.nanos % nanosPerSecond ≤ b.nanos - b.nanos % nanosPerSecond
    unfold nanosPerSecond
    omega

/-- A literal is the literal of the whole second. -/
theorem sqlText_wholeSecond (t : Instant) : t.wholeSecond.sqlText = t.sqlText := by
  have hshown : t.wholeSecond.shownSecond = t.shownSecond := by
    unfold shownSecond
    rw [t.isLeap_wholeSecond]
    rfl
  unfold sqlText sqlChars clockText
  rw [hshown]
  rfl

end Instant

-- ======================================================= loose reading

/-- Digits at the front, as many as there are. -/
theorem readNumber_all {least : Nat} {ds cs : List Char} (hds : ds.all isDigit = true)
    (hleast : least ≤ ds.length) (hcs : startsPlain cs = true) :
    readNumber least none (ds ++ cs) = .ok (Text.digitsValue ds, cs) := by
  have hbytes : ¬ byteLength (ds ++ cs) < least := by
    have := length_le_byteLength (ds ++ cs)
    rw [List.length_append] at this
    omega
  unfold readNumber
  simp only [Text.takeWhile_digits hds hcs]
  rw [if_neg hbytes, if_neg (by omega), List.drop_left]

/-- What a padded number starts with is no blank and no sign. -/
theorem exists_digit_padded {w n : Nat} :
    ∃ c ds, padded w n = c :: ds ∧ Text.isBlank c = false ∧ c ≠ '-' ∧ c ≠ '+' := by
  cases hpadded : padded w n with
  | nil =>
    unfold padded at hpadded
    exact absurd (List.append_eq_nil_iff.1 hpadded).2 (Text.numeral_ne_nil n)
  | cons c ds =>
    have hdigit : isDigit c = true := by
      have hall := Text.all_isDigit_padded w n
      rw [hpadded] at hall
      exact List.all_eq_true.1 hall c List.mem_cons_self
    refine ⟨c, ds, rfl, Text.isBlank_of_isDigit hdigit, ?_, ?_⟩
    · rintro rfl
      cases hdigit
    · rintro rfl
      cases hdigit

/-- Nothing is trimmed in front of a number. -/
theorem trimLeft_padded (w n : Nat) (cs : List Char) :
    trimLeft (padded w n ++ cs) = padded w n ++ cs := by
  obtain ⟨c, ds, hform, hblank, -⟩ := exists_digit_padded (w := w) (n := n)
  unfold trimLeft
  rw [hform, List.cons_append, List.dropWhile_cons, hblank]
  rfl

theorem readShort_padded {n : Nat} (h : n < 100) (cs : List Char) :
    readShort (padded 2 n ++ cs) = .ok (n, cs) := by
  have hlength := Text.length_padded (w := 2) (by decide) h
  unfold readShort
  rw [trimLeft_padded, readNumber_digits (Text.all_isDigit_padded 2 n) (by omega) (by omega)
    (.inl hlength), Text.digitsValue_padded]

/-- A year is read back, with its sign or without one. -/
theorem readYear_yearText (y : Int) (cs : List Char) :
    readYear (yearText y ++ '-' :: cs) = .ok (y, '-' :: cs) := by
  have hall := Text.all_isDigit_padded 4 y.natAbs
  have hpos : 1 ≤ (padded 4 y.natAbs).length := by
    obtain ⟨c, ds, hform, -⟩ := exists_digit_padded (w := 4) (n := y.natAbs)
    rw [hform]
    exact Nat.succ_pos _
  have hsigned : readNumber 1 none (padded 4 y.natAbs ++ '-' :: cs)
      = .ok (y.natAbs, '-' :: cs) := by
    rw [readNumber_all hall hpos rfl, Text.digitsValue_padded]
  unfold yearText
  -- four digits without a sign, or any number of them with one
  split
  · next hplain =>
    have hlength := Text.length_padded (w := 4) (n := y.natAbs) (by decide) (by omega)
    have hnumber : readNumber 1 (some 4) (padded 4 y.natAbs ++ '-' :: cs)
        = .ok (y.natAbs, '-' :: cs) := by
      rw [readNumber_digits hall hpos (by omega) (.inl hlength), Text.digitsValue_padded]
    have habs : (y.natAbs : Int) = y := Int.natAbs_of_nonneg hplain.1
    obtain ⟨c, ds, hform, -, hminus, hplus⟩ := exists_digit_padded (w := 4) (n := y.natAbs)
    unfold readYear
    rw [trimLeft_padded]
    split
    · next heq =>
      rw [hform] at heq
      exact absurd (List.cons.inj heq).1 hminus
    · next heq =>
      rw [hform] at heq
      exact absurd (List.cons.inj heq).1 hplus
    · rw [hnumber]
      show Except.ok ((y.natAbs : Int), '-' :: cs) = _
      rw [habs]
  · split
    · next hneg =>
      have habs : -(y.natAbs : Int) = y := by omega
      show (readNumber 1 none (padded 4 y.natAbs ++ '-' :: cs)).map _ = _
      rw [hsigned]
      show Except.ok (-(y.natAbs : Int), '-' :: cs) = _
      rw [habs]
    · next hneg =>
      have habs : (y.natAbs : Int) = y := by omega
      show (readNumber 1 none (padded 4 y.natAbs ++ '-' :: cs)).map _ = _
      rw [hsigned]
      show Except.ok ((y.natAbs : Int), '-' :: cs) = _
      rw [habs]

/-- The loose reader takes the parts of a written instant one by one,
whatever parts the date from the time and names the offset. -/
theorem readLooseParts_written (t : Instant) {separator : Char} {offset : List Char}
    (hseparator : ∀ cs, readSeparator (separator :: cs) = .ok cs)
    (hoffset : readLooseOffset (trimLeft offset) = .ok (0, []))
    (hplain : startsPlain offset = true) (hdot : offset.head? ≠ some '.') :
    readLooseParts (t.date.text ++ separator :: (t.clockText ++ (t.fractionText ++ offset)))
      = .ok (t.parts, []) := by
  -- each part is read up to the character that stands behind it
  obtain ⟨⟨hmonth1, hmonth2⟩, ⟨hday1, hday2⟩, hhour23, hminute59, hsecond⟩ := t.shown_bounds
  have hform : t.date.text ++ separator :: (t.clockText ++ (t.fractionText ++ offset))
      = yearText t.date.year ++ '-' :: (padded 2 t.date.month
        ++ '-' :: (padded 2 t.date.day ++ separator :: (padded 2 (t.secondOfDay / 3600)
        ++ ':' :: (padded 2 (t.secondOfDay / 60 % 60)
        ++ ':' :: (padded 2 t.shownSecond ++ (t.fractionText ++ offset)))))) := by
    unfold Date.text Instant.clockText
    simp only [List.append_assoc, List.cons_append]
  have hmonth : ∀ cs, readShort (padded 2 t.date.month ++ cs) = .ok (t.date.month, cs) :=
    readShort_padded (Nat.lt_of_le_of_lt hmonth2 (by decide))
  have hday : ∀ cs, readShort (padded 2 t.date.day ++ cs) = .ok (t.date.day, cs) :=
    readShort_padded (Nat.lt_of_le_of_lt hday2 (by decide))
  have hhour : ∀ cs, readShort (padded 2 (t.secondOfDay / 3600) ++ cs)
      = .ok (t.secondOfDay / 3600, cs) :=
    readShort_padded (by omega)
  have hminute : ∀ cs, readShort (padded 2 (t.secondOfDay / 60 % 60) ++ cs)
      = .ok (t.secondOfDay / 60 % 60, cs) :=
    readShort_padded (by omega)
  have hshown : ∀ cs, readShort (padded 2 t.shownSecond ++ cs) = .ok (t.shownSecond, cs) :=
    readShort_padded (by omega)
  have hfraction : readFraction (t.fractionText ++ offset) = .ok (t.shownNanos, offset) :=
    readFraction_fractionText t hplain hdot
  have hdash : ∀ cs, trimLeft ('-' :: cs) = '-' :: cs := fun _ => rfl
  have hcolon : ∀ cs, trimLeft (':' :: cs) = ':' :: cs := fun _ => rfl
  rw [hform]
  unfold readLooseParts
  simp only [readYear_yearText, hmonth, hday, hhour, hminute, hshown, hfraction, hoffset,
    hseparator, hdash, hcolon, readChar_cons, within_ok hmonth1 hmonth2, within_ok hday1 hday2,
    within_ok (Nat.zero_le _) hhour23, within_ok (Nat.zero_le _) hminute59,
    within_ok (Nat.zero_le _) hsecond, bind, Except.bind, pure, Except.pure]
  rfl

/-- An instant is read back when its parts are. -/
theorem readLoose_of_parts {t : Instant} {cs : List Char}
    (h : readLooseParts cs = .ok (t.parts, [])) : readLoose (String.ofList cs) = .ok t := by
  unfold readLoose
  rw [String.toList_ofList, h]
  show t.parts.instant = _
  exact t.instant_parts

/-- Every literal is read back as the whole second of its instant. -/
theorem readLoose_sqlText (t : Instant) : readLoose t.sqlText = .ok t.wholeSecond := by
  rw [← t.sqlText_wholeSecond]
  apply readLoose_of_parts
  have hparts := @readLooseParts_written t.wholeSecond ' ' "+00:00".toList (fun _ => rfl) rfl rfl
    (by decide)
  have hfraction : t.wholeSecond.fractionText = [] := by
    unfold Instant.fractionText
    simp only [t.shownNanos_wholeSecond, if_true]
  rw [hfraction] at hparts
  unfold Instant.sqlChars
  simpa only [List.append_assoc, List.cons_append, List.nil_append] using hparts

/-- Every instant is read back from its interchange form with `Z`, also
where the year has a sign. -/
theorem readLoose_zuluText (t : Instant) : readLoose t.zuluText = .ok t := by
  apply readLoose_of_parts
  have hparts := @readLooseParts_written t 'T' ['Z'] (fun _ => rfl) rfl rfl (by decide)
  unfold Instant.localChars
  simpa only [List.append_assoc, List.cons_append] using hparts

end EventAnalytics.Time
