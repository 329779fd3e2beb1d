/-
What is written for a finite double can be read as a finite double.

The numeral of a double has at most seventeen digits, so none is dropped
on the way in (`double?_eq`), and it stands for a decimal in the interval
of the double. Reading it is a division, which cannot fail, or a product
of a decimal at least three units below the largest double, which does not
overflow. Only the two largest doubles are nearer to the bound than that;
their decimals are known, and read (`value?_numeral`).

The double that is read need not be the one that was written, since the
significand and the power of ten are rounded on their own.
-/
import EventAnalytics.Json.Node
import EventAnalytics.Proofs.Decimal.Bounds
import EventAnalytics.Proofs.Decimal.Conversion
import EventAnalytics.Proofs.Decimal.Writing

namespace EventAnalytics

open Text (digitsValue digitValue)

-- ================================================= no digit is dropped

namespace Json

/-- The value of digits does not fall as more of them are read. -/
theorem le_foldl_digits (cs : List Char) (s : Nat) :
    s ≤ cs.foldl (fun v c => 10 * v + digitValue c) s := by
  induction cs generalizing s with
  | nil => exact Nat.le_refl s
  | cons c r ih =>
    refine Nat.le_trans ?_ (ih (10 * s + digitValue c))
    omega

/-- A significand takes all digits while the whole of them has a place. -/
theorem extend_eq {cs : List Char} {s : Nat}
    (h : cs.foldl (fun v c => 10 * v + digitValue c) s ≤ maxSignificand) :
    extend s cs = (cs.foldl (fun v c => 10 * v + digitValue c) s, 0) := by
  induction cs generalizing s with
  | nil => rfl
  | cons c r ih =>
    have hstep : s * 10 + digitValue c = 10 * s + digitValue c := by omega
    have hfits : s * 10 + digitValue c ≤ maxSignificand := by
      rw [hstep]
      exact Nat.le_trans (le_foldl_digits r _) h
    unfold extend
    simp only
    rw [if_pos hfits, hstep]
    exact ih h

/-- The digits of a numeral, before and after its point. -/
def Numeral.digits (n : Numeral) : List Char := n.whole ++ n.fraction.getD []

/-- A numeral with few digits stands for all of them times a power of ten. -/
theorem Numeral.double?_eq {n : Numeral} (h : digitsValue n.digits ≤ maxSignificand) :
    n.double? = Double.ofScientific? n.negative (digitsValue n.digits)
      (n.exponent.getD 0 - (n.fraction.getD []).length) := by
  unfold digits at h ⊢
  rw [Text.digitsValue_append] at h ⊢
  have hwhole : extend 0 n.whole = (digitsValue n.whole, 0) :=
    extend_eq (Nat.le_trans (le_foldl_digits _ _) h)
  have hfraction := extend_eq h
  unfold double?
  rw [hwhole]
  simp only
  rw [hfraction]
  simp only
  congr 1
  omega

/-- A numeral with a fraction or an exponent is read as a double. -/
theorem Numeral.value?_eq {n : Numeral} (h : (n.fraction.isSome || n.exponent.isSome) = true) :
    n.value? = n.double?.map .double := by
  unfold value?
  rw [if_pos h]

end Json

-- ============================================ the digits of a decimal

namespace Decimal

variable {d : Decimal}

theorem digits_scientific (negative : Bool) (digits : List Char) (lead : Int) :
    (scientificNumeral negative digits lead).digits = digits := by
  unfold Json.Numeral.digits scientificNumeral
  simp only
  split
  · next h =>
    rw [Option.getD_none, ← h]
    exact List.take_append_drop 1 digits
  · exact List.take_append_drop 1 digits

/-- A positional numeral shows the digits, with zeros before or behind them
up to the sixteenth place and the one after the point. -/
theorem digits_positional (negative : Bool) (digits : List Char) {lead : Int} (h : lead ≤ 15) :
    ∃ k, (k = 0 ∨ digits.length + k ≤ 17)
      ∧ digitsValue (positionalNumeral negative digits lead).digits
        = digitsValue digits * 10 ^ k := by
  unfold Json.Numeral.digits positionalNumeral
  split
  · refine ⟨0, .inl rfl, ?_⟩
    show digitsValue ('0' :: (List.replicate (-lead - 1).toNat '0' ++ digits)) = _
    rw [← List.cons_append, ← List.replicate_succ, Text.digitsValue_zeros, Nat.pow_zero,
      Nat.mul_one]
  · split
    · next hle =>
      refine ⟨lead.toNat + 1 - digits.length + 1, .inr (by omega), ?_⟩
      show digitsValue (digits ++ List.replicate (lead.toNat + 1 - digits.length) '0' ++ ['0']) = _
      rw [List.append_assoc, ← List.replicate_succ', Text.digitsValue_append_zeros]
    · refine ⟨0, .inl rfl, ?_⟩
      show digitsValue (digits.take (lead.toNat + 1) ++ digits.drop (lead.toNat + 1)) = _
      rw [List.take_append_drop, Nat.pow_zero, Nat.mul_one]

/-- In positional notation there is always a fraction. -/
theorem fraction_positional (negative : Bool) {digits : List Char} (hne : digits ≠ [])
    (lead : Int) :
    ∃ ds, (positionalNumeral negative digits lead).fraction = some ds ∧ ds ≠ [] := by
  unfold positionalNumeral
  split
  · exact ⟨_, rfl, by simpa using fun _ => hne⟩
  · split
    · exact ⟨_, rfl, by simp⟩
    · next hlong =>
      refine ⟨_, rfl, ?_⟩
      intro hnil
      exact hlong (List.drop_eq_nil_iff.1 hnil)

/-- In scientific notation all digits but the first are in the fraction. -/
theorem length_fraction_scientific (negative : Bool) (digits : List Char) (lead : Int) :
    ((scientificNumeral negative digits lead).fraction.getD []).length = digits.length - 1 := by
  unfold scientificNumeral
  simp only
  split
  · next h =>
    rw [Option.getD_none, List.length_nil, ← List.length_drop, h, List.length_nil]
  · rw [Option.getD_some, List.length_drop]

/-- A decimal is never written as a whole number. -/
theorem notation_numeral (negative : Bool) (d : Decimal) :
    ((d.numeral negative).fraction.isSome || (d.numeral negative).exponent.isSome) = true := by
  unfold numeral
  split
  · obtain ⟨ds, hds, -⟩ := fraction_positional negative (Text.numeral_ne_nil d.digits) d.lead
    rw [hds]
    rfl
  · exact Bool.or_true _

/-- A positional numeral has a point, so reading it is a division. -/
theorem isSome_double?_positional (negative : Bool) {n : Nat} (hle : n ≤ 10 ^ 17) {lead : Int}
    (hlead : lead ≤ 15) :
    (positionalNumeral negative (Text.numeral n) lead).double?.isSome = true := by
  obtain ⟨k, hk, hdigits⟩ := digits_positional negative (Text.numeral n) hlead
  obtain ⟨ds, hds, hne⟩ := fraction_positional negative (Text.numeral_ne_nil n) lead
  have hexponent : (positionalNumeral negative (Text.numeral n) lead).exponent = none := by
    unfold positionalNumeral
    split
    · rfl
    · split <;> rfl
  have hfits : digitsValue (positionalNumeral negative (Text.numeral n) lead).digits
      ≤ Json.maxSignificand := by
    rw [hdigits, Text.digitsValue_numeral]
    apply Nat.le_trans _ (by decide : 10 ^ 17 ≤ Json.maxSignificand)
    rcases hk with rfl | hk
    · rw [Nat.pow_zero, Nat.mul_one]
      exact hle
    · calc n * 10 ^ k ≤ 10 ^ (Text.numeral n).length * 10 ^ k :=
            Nat.mul_le_mul_right _ (Text.numeral_bounds n).1.le
        _ = 10 ^ ((Text.numeral n).length + k) := (Nat.pow_add _ _ _).symm
        _ ≤ 10 ^ 17 := Nat.pow_le_pow_right (by decide) hk
  have hpos : 0 < ds.length := List.length_pos_iff.2 hne
  rw [Json.Numeral.double?_eq hfits, hexponent, hds]
  apply Double.isSome_ofScientific?_of_neg
  show (0 : Int) - ds.length < 0
  omega

/-- A scientific numeral shows the power of ten that its digits are read
with. -/
theorem isSome_double?_scientific (negative : Bool) (hne : d.digits ≠ 0)
    (hle : d.digits ≤ 10 ^ 17) (hbound : d.value ≤ (2 ^ 54 - 5) * 2 ^ (970 : Int)) :
    (scientificNumeral negative (Text.numeral d.digits) d.lead).double?.isSome = true := by
  have hdigits := digits_scientific negative (Text.numeral d.digits) d.lead
  have hself := Text.digitsValue_numeral d.digits
  have hfits : digitsValue (scientificNumeral negative (Text.numeral d.digits) d.lead).digits
      ≤ Json.maxSignificand := by
    rw [hdigits, hself]
    exact Nat.le_trans hle (by decide)
  have hlength : 0 < (Text.numeral d.digits).length :=
    List.length_pos_iff.2 (Text.numeral_ne_nil _)
  have hexponent : ((scientificNumeral negative (Text.numeral d.digits) d.lead).exponent.getD 0
      - ((scientificNumeral negative (Text.numeral d.digits) d.lead).fraction.getD []).length : Int)
      = d.exponent := by
    rw [length_fraction_scientific]
    show d.exponent + (Text.numeral d.digits).length - 1
      - ((Text.numeral d.digits).length - 1 : Nat) = d.exponent
    omega
  rw [Json.Numeral.double?_eq hfits, hexponent, hdigits, hself]
  by_cases hneg : d.exponent < 0
  · exact Double.isSome_ofScientific?_of_neg _ _ hneg
  · obtain ⟨k, hk⟩ := Int.eq_ofNat_of_zero_le (Int.not_lt.1 hneg)
    unfold value at hbound
    rw [hk, zpow_natCast] at hbound
    rw [hk]
    apply Double.isSome_ofScientific?_of_le _ hne _ hbound
    exact Nat.lt_of_le_of_lt hle (by decide)

/-- A decimal that is not too large and has few digits can be read. -/
theorem isSome_double?_numeral (negative : Bool) (hne : d.digits ≠ 0) (hle : d.digits ≤ 10 ^ 17)
    (hbound : d.value ≤ (2 ^ 54 - 5) * 2 ^ (970 : Int)) :
    (d.numeral negative).double?.isSome = true := by
  unfold numeral
  split
  · next hlead => exact isSome_double?_positional negative hle hlead.2
  · exact isSome_double?_scientific negative hne hle hbound

/-- The first grid that is searched, from the size of the number. -/
theorem Target.leading_eq {t : Target} {k : Nat}
    (hlow : 10 ^ k ≤ t.middle * t.unit (-350) / t.step (-350))
    (hhigh : t.middle * t.unit (-350) / t.step (-350) < 10 ^ (k + 1)) :
    t.leading = k - 350 := by
  have hlength := Text.length_numeral_eq hlow hhigh
  unfold leading
  simp only
  rw [hlength]
  omega

end Decimal

-- ============================================= the decimal of a double

namespace Double

variable {d : Double}

/-- A significand has 53 bits at most. -/
theorem significand_lt (d : Double) : d.significand < 2 ^ 53 := by
  have hfraction : d.fractionField < 0x10000000000000 := Nat.mod_lt _ (by decide)
  unfold significand
  split <;> omega

/-- The target of a double among the two largest ones. -/
theorem target_of_largest {j : Nat} (hj : j ≤ 1) (hfield : d.exponentField = 2046)
    (hm : d.significand = 2 ^ 53 - 1 - j) :
    Decimal.Target.ofDouble d = ⟨4 * (2 ^ 53 - 1 - j) - 2, 4 * (2 ^ 53 - 1 - j),
      4 * (2 ^ 53 - 1 - j) + 2, decide ((2 ^ 53 - 1 - j) % 2 = 0), 969⟩ := by
  have hfraction : d.fractionField ≠ 0 := by
    unfold significand at hm
    rw [hfield, if_neg (by decide)] at hm
    omega
  unfold Decimal.Target.ofDouble exponent
  rw [hm, hfield, if_neg (by decide)]
  simp only
  rw [if_neg (fun h => hfraction h.1)]
  rfl

/-- The two largest doubles are written with an exponent, and can be
read. -/
theorem shortest_of_largest {j : Nat} (hj : j ≤ 1) (hfield : d.exponentField = 2046)
    (hm : d.significand = 2 ^ 53 - 1 - j) :
    Decimal.shortest d = ⟨17976931348623157 - 2 * j, 292⟩ := by
  have htarget := target_of_largest hj hfield hm
  have hj : j = 0 ∨ j = 1 := by omega
  have hleading : (Decimal.Target.ofDouble d).leading = (658 : Nat) - 350 := by
    apply Decimal.Target.leading_eq
    · rw [htarget]
      rcases hj with rfl | rfl <;> decide +kernel
    · rw [htarget]
      rcases hj with rfl | rfl <;> decide +kernel
  unfold Decimal.shortest
  simp only
  rw [hleading, htarget]
  rcases hj with rfl | rfl <;> decide +kernel

/-- The upper end of what is read as a double, in quarters of its unit. -/
theorem cast_high (d : Double) :
    ((Decimal.Target.ofDouble d).high : ℚ) = 4 * d.significand + 2 := by
  show ((4 * d.significand + 2 : Nat) : ℚ) = _
  push_cast
  rfl

/-- The interval of any other finite double ends three units below the
largest one. -/
theorem high_le (hfield : d.exponentField < 2047)
    (hm : d.exponentField = 2046 → d.significand ≤ 2 ^ 53 - 3) :
    ((Decimal.Target.ofDouble d).high : ℚ) * 2 ^ (Decimal.Target.ofDouble d).exponent
      ≤ (2 ^ 54 - 5) * 2 ^ (970 : Int) := by
  have hexponent : (Decimal.Target.ofDouble d).exponent = d.exponent - 2 := rfl
  rw [cast_high, hexponent]
  by_cases htop : d.exponentField = 2046
  · have hle : 4 * (d.significand : ℚ) + 2 ≤ (2 ^ 54 - 5) * 2 := by
      have hcast : (d.significand : ℚ) ≤ 9007199254740989 := by exact_mod_cast hm htop
      norm_num
      linarith
    have hlast : d.exponent - 2 = 969 := by
      unfold exponent
      rw [htop]
      rfl
    rw [hlast, show (970 : Int) = 1 + 969 by rfl, zpow_add₀ (by norm_num), zpow_one, ← mul_assoc]
    exact mul_le_mul_of_nonneg_right hle (by positivity)
  · have hle : 4 * (d.significand : ℚ) + 2 ≤ (2 ^ 54 - 5) * 2 ^ (2 : Int) := by
      have hcast : (d.significand : ℚ) ≤ 9007199254740992 := by exact_mod_cast d.significand_lt.le
      norm_num
      linarith
    have hlast : d.exponent - 2 ≤ 968 := by
      unfold exponent
      split <;> omega
    rw [show (970 : Int) = 2 + 968 by rfl, zpow_add₀ (by norm_num), ← mul_assoc]
    exact mul_le_mul hle (zpow_le_zpow_right₀ (by norm_num) hlast) (by positivity) (by norm_num)

/-- The numeral of a double obeys the grammar. -/
theorem isWellFormed_numeral (d : Double) : d.numeral.isWellFormed = true := by
  unfold numeral
  split
  · cases d.isNegative <;> decide
  · next hne =>
    refine Decimal.isWellFormed_numeral ?_ d.isNegative
    rcases Decimal.shortest_spec hne with hzero | ⟨hdigits, -⟩
    · exact .inr hzero
    · exact .inl hdigits

/-- What is written of a finite double is read as some double. -/
theorem isSome_double?_numeral (hfield : d.exponentField < 2047) :
    d.numeral.double?.isSome = true := by
  unfold numeral
  split
  · cases d.isNegative <;> decide +kernel
  · next hne =>
    rcases Decimal.shortest_spec hne with hzero | ⟨hdigits, hle, hvalue⟩
    · rw [hzero]
      cases d.isNegative <;> decide +kernel
    · by_cases hlarge : d.exponentField = 2046 ∧ 2 ^ 53 - 3 < d.significand
      · obtain ⟨htop, hm⟩ := hlarge
        have hlt := d.significand_lt
        obtain ⟨j, hj, hj'⟩ : ∃ j ≤ 1, d.significand = 2 ^ 53 - 1 - j :=
          ⟨2 ^ 53 - 1 - d.significand, by omega, by omega⟩
        rw [shortest_of_largest hj htop hj']
        have hj : j = 0 ∨ j = 1 := by omega
        rcases hj with rfl | rfl <;> cases d.isNegative <;> decide +kernel
      · refine Decimal.isSome_double?_numeral _ hdigits hle (le_trans hvalue (high_le hfield ?_))
        intro htop
        by_contra hlt
        exact hlarge ⟨htop, Nat.lt_of_not_le hlt⟩

/-- What is written for a finite double is read as a finite double. -/
theorem value?_numeral (hfield : d.exponentField < 2047) :
    ∃ d' : Double, d.numeral.value? = some (.double d') ∧ d'.exponentField < 2047 := by
  have hnotation : (d.numeral.fraction.isSome || d.numeral.exponent.isSome) = true := by
    unfold numeral
    split
    · rfl
    · exact Decimal.notation_numeral _ _
  obtain ⟨d', hd'⟩ := Option.isSome_iff_exists.1 (isSome_double?_numeral hfield)
  refine ⟨d', ?_, ?_⟩
  · rw [Json.Numeral.value?_eq hnotation, hd']
    rfl
  · exact exponentField_of_ofScientific? hd'

end Double

end EventAnalytics
