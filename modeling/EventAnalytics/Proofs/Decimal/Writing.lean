/-
Doubles are written as numerals.

The two notations of a decimal are two ways to cut its digits into a whole
part, a fraction and an exponent. `Decimal.numeral` says how, and the text
of a decimal is the writing of its numeral. That numeral obeys the grammar
whenever the digits do not stand for zero, or the decimal is zero itself.
-/
import EventAnalytics.Decimal.Shortest
import EventAnalytics.Proofs.Json.Numeral

namespace EventAnalytics

open Text (isDigit numeral)

namespace Decimal

/-- A decimal in positional notation, as a numeral. -/
def positionalNumeral (negative : Bool) (digits : List Char) (lead : Int) : Json.Numeral :=
  if lead < 0 then
    ⟨negative, ['0'], some (List.replicate (-lead - 1).toNat '0' ++ digits), none⟩
  else if digits.length ≤ lead.toNat + 1 then
    ⟨negative, digits ++ List.replicate (lead.toNat + 1 - digits.length) '0', some ['0'], none⟩
  else ⟨negative, digits.take (lead.toNat + 1), some (digits.drop (lead.toNat + 1)), none⟩

/-- A decimal with an exponent, as a numeral. -/
def scientificNumeral (negative : Bool) (digits : List Char) (lead : Int) : Json.Numeral :=
  ⟨negative, digits.take 1, if digits.drop 1 = [] then none else some (digits.drop 1), some lead⟩

/-- The power of ten of the leading digit. -/
def lead (d : Decimal) : Int := d.exponent + (numeral d.digits).length - 1

/-- A decimal as a numeral with a sign. -/
def numeral (negative : Bool) (d : Decimal) : Json.Numeral :=
  if -5 ≤ d.lead ∧ d.lead ≤ 15 then positionalNumeral negative (Text.numeral d.digits) d.lead
  else scientificNumeral negative (Text.numeral d.digits) d.lead

theorem positional_eq (digits : List Char) (lead : Int) :
    positional digits lead = (positionalNumeral false digits lead).chars := by
  unfold positional positionalNumeral
  split
  · simp [Json.Numeral.chars, Json.Numeral.fractionChars, Json.Numeral.exponentChars]
  · simp only
    split <;> simp [Json.Numeral.chars, Json.Numeral.fractionChars, Json.Numeral.exponentChars]

theorem scientific_eq (digits : List Char) (lead : Int) :
    scientific digits lead = (scientificNumeral false digits lead).chars := by
  unfold scientific scientificNumeral
  cases digits.drop 1 with
  | nil => simp [Json.Numeral.chars, Json.Numeral.fractionChars, Json.Numeral.exponentChars]
  | cons c r => simp [Json.Numeral.chars, Json.Numeral.fractionChars, Json.Numeral.exponentChars]

/-- The text of a decimal is the writing of its numeral. -/
theorem text_eq (d : Decimal) : d.text = (d.numeral false).chars := by
  have hform : d.text = if -5 ≤ d.lead ∧ d.lead ≤ 15
      then positional (Text.numeral d.digits) d.lead
      else scientific (Text.numeral d.digits) d.lead := rfl
  rw [hform]
  unfold numeral
  split
  · exact positional_eq _ _
  · exact scientific_eq _ _

/-- A sign is written in front of the rest. -/
theorem numeral_chars (d : Decimal) (negative : Bool) :
    (d.numeral negative).chars = (if negative then ['-'] else []) ++ (d.numeral false).chars := by
  unfold numeral positionalNumeral scientificNumeral
  cases negative with
  | false => rfl
  | true =>
    simp only [if_true]
    split
    · split
      · rfl
      · split <;> rfl
    · rfl

-- ======================================================= the grammar

/-- Digits and what follows a cut through them make a well-formed numeral
when no zero leads. -/
theorem isWellFormed_of_digits {n : Json.Numeral} (hne : n.whole ≠ [])
    (hfront : n.whole = ['0'] ∨ n.whole.head? ≠ some '0') (hwhole : n.whole.all isDigit = true)
    (hfraction : ∀ ds, n.fraction = some ds → ds ≠ [] ∧ ds.all isDigit = true) :
    n.isWellFormed = true := by
  simp only [Json.Numeral.isWellFormed, Bool.and_eq_true, Bool.or_eq_true, beq_iff_eq, bne_iff_ne]
  refine ⟨⟨?_, hwhole⟩, ?_⟩
  · rcases hfront with hzero | hfront
    · exact .inl hzero
    · exact .inr ⟨by simpa using hne, hfront⟩
  · cases hf : n.fraction with
    | none => rfl
    | some ds =>
      obtain ⟨hne, hds⟩ := hfraction ds hf
      rw [Option.all_some, Bool.and_eq_true]
      exact ⟨by simpa using hne, hds⟩

theorem isWellFormed_positional (negative : Bool) {digits : List Char} {lead : Int}
    (hne : digits ≠ []) (hfront : digits.head? ≠ some '0') (hdigits : digits.all isDigit = true) :
    (positionalNumeral negative digits lead).isWellFormed = true := by
  cases hd : digits with
  | nil => exact absurd hd hne
  | cons d r =>
    have hfront' : d ≠ '0' := by
      rw [hd] at hfront
      simpa using hfront
    rw [hd, List.all_eq_true] at hdigits
    unfold positionalNumeral
    split
    -- All digits stand behind the point.
    · refine isWellFormed_of_digits (by simp) (.inl rfl) rfl ?_
      rintro ds hds
      cases hds
      refine ⟨by simp, ?_⟩
      rw [List.all_append, Text.all_isDigit_zeros, Bool.true_and, List.all_eq_true]
      exact hdigits
    · split
      -- All digits stand before the point, and zeros fill the places that
      -- are left.
      · refine isWellFormed_of_digits (by simp) (.inr (by simpa using hfront')) ?_ ?_
        · show ((d :: r) ++ List.replicate _ '0').all isDigit = true
          rw [List.all_append, Text.all_isDigit_zeros, Bool.and_true, List.all_eq_true]
          exact hdigits
        · rintro ds hds
          cases hds
          exact ⟨by simp, rfl⟩
      · next hlong =>
        -- The point stands between two digits.
        refine isWellFormed_of_digits (by simp) (.inr (by simpa using hfront')) ?_ ?_
        · rw [List.all_eq_true]
          exact fun c hc => hdigits c (List.mem_of_mem_take hc)
        · rintro ds hds
          cases hds
          refine ⟨?_, ?_⟩
          · intro hnil
            rw [List.drop_eq_nil_iff] at hnil
            exact hlong hnil
          · rw [List.all_eq_true]
            exact fun c hc => hdigits c (List.mem_of_mem_drop hc)

theorem isWellFormed_scientific (negative : Bool) {digits : List Char} {lead : Int}
    (hne : digits ≠ []) (hfront : digits.head? ≠ some '0') (hdigits : digits.all isDigit = true) :
    (scientificNumeral negative digits lead).isWellFormed = true := by
  cases hd : digits with
  | nil => exact absurd hd hne
  | cons d r =>
    rw [hd] at hfront hdigits
    rw [List.all_eq_true] at hdigits
    refine isWellFormed_of_digits (by simp [scientificNumeral])
      (.inr (by simpa [scientificNumeral] using hfront)) ?_ ?_
    · rw [List.all_eq_true]
      exact fun c hc => hdigits c (List.mem_of_mem_take hc)
    · intro ds hds
      unfold scientificNumeral at hds
      simp only at hds
      split at hds
      · cases hds
      · next hrest =>
        cases hds
        refine ⟨hrest, ?_⟩
        rw [List.all_eq_true]
        exact fun c hc => hdigits c (List.mem_of_mem_drop hc)

/-- A decimal without a zero in front has a well-formed numeral. -/
theorem isWellFormed_numeral {d : Decimal} (h : d.digits ≠ 0 ∨ d = ⟨0, 0⟩) (negative : Bool) :
    (d.numeral negative).isWellFormed = true := by
  rcases h with hne | rfl
  · have hdigits := Text.all_isDigit_numeral d.digits
    unfold numeral
    split
    · exact isWellFormed_positional negative (Text.numeral_ne_nil _) (Text.head?_numeral hne) hdigits
    · exact isWellFormed_scientific negative (Text.numeral_ne_nil _) (Text.head?_numeral hne) hdigits
  · cases negative <;> decide +kernel

end Decimal

namespace Double

def numeral (d : Double) : Json.Numeral :=
  if d.significand = 0 then ⟨d.isNegative, ['0'], some ['0'], none⟩
  else (Decimal.shortest d).numeral d.isNegative

/-- The text of a double is the writing of its numeral. -/
theorem text_eq (d : Double) : d.text = d.numeral.chars := by
  unfold text numeral
  simp only
  by_cases hzero : d.significand = 0
  · rw [if_pos hzero, if_pos hzero]
    cases d.isNegative <;> rfl
  · rw [if_neg hzero, if_neg hzero, Decimal.numeral_chars, Decimal.text_eq]
    cases d.isNegative <;> rfl

end Double

end EventAnalytics
