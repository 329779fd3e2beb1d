/-
Numerals become finite doubles.

The two steps in which a significand and a power of ten become a double
never give infinity or an undefined number: a product is checked, and a
quotient of a whole number of 64 bits stays small
(`exponentField_of_ofScientific?`). They do give a double whenever the
power is negative, and for other powers while the decimal stays at three
units or more below the largest double (`ofScientific?_isSome_of_le`).
-/
import EventAnalytics.Proofs.Decimal.Floats

namespace EventAnalytics.Double

open Float.Model (UnpackedFloat Format)
open Rounding

variable {x y : Float} {e : Int}

-- =========================================================== finite

theorem mul_eq (x y : Float) : (x * y).toModel
    = Float.Model.pack (UnpackedFloat.mul Format.binary64 x.toModel.unpack y.toModel.unpack) :=
  rfl

/-- A product with a power of ten is finite when it is not infinite. -/
theorem isFinite_product {b : Int} {k : Nat} (hk : k ≤ 308) (hx : IsBelow b x.toModel.unpack)
    (hinf : (x * tenPower k).isInf = false) : IsFinite (x * tenPower k).toModel.unpack := by
  have hten := tenPower_isClose hk
  cases hy : (tenPower k).toModel.unpack with
  | zero | infinity | notANumber =>
    rw [hy] at hten
    exact hten.elim
  | finite s' m' e' hm' =>
  have hinf' : (x * tenPower k).toModel.unpack.isInf = false := hinf
  rw [mul_eq, hy] at hinf' ⊢
  cases hself : x.toModel.unpack with
  | zero s => exact isFinite_unpack_pack trivial
  | infinity | notANumber =>
    rw [hself] at hx
    exact hx.elim
  | finite s m e hm =>
  rw [hself, mul_finite] at hinf'
  rw [mul_finite]
  rcases roundWithAccuracy_cases (s * s') (m * m') (e + e') .exact with heq | ⟨j, hpos, heq⟩
  · rw [heq]
    exact isFinite_unpack_pack trivial
  · rw [heq] at hinf' ⊢
    exact isFinite_of_isInf_eq_false _ _ hinf'

/-- Scaling a small number by a power of ten leaves it finite. -/
theorem isFinite_of_scaled? (hx : IsBelow 64 x.toModel.unpack) (h : scaled? x e = some y) :
    IsFinite y.toModel.unpack := by
  fun_induction scaled? x e with
  | case1 => cases h
  | case2 x e hpos hle g hinf =>
    rw [← Option.some.inj h]
    have hk : e.toNat ≤ 308 := by
      rw [maxStep] at hle
      omega
    exact isFinite_product hk hx (Bool.eq_false_iff.2 hinf)
  | case3 | case6 =>
    cases h
    exact hx.isFinite (by decide)
  | case4 => cases h
  | case5 x e hpos hle =>
    cases h
    rw [maxStep] at hle
    exact (isBelow_quotient (by decide) (by decide) (by omega) (by omega) hx).isFinite (by decide)
  | case7 x e _ _ _ ih =>
    exact ih (isBelow_quotient (by decide) (by decide) (by decide) (by decide) hx) h

/-- A double that a numeral stands for is finite. -/
theorem exponentField_of_ofScientific? {negative : Bool} {significand : Nat} {d : Double}
    (h : ofScientific? negative significand e = some d) : d.exponentField < 2047 := by
  obtain ⟨y, hy, rfl⟩ := Option.map_eq_some_iff.1 h
  have hfinite := isFinite_of_scaled? (isBelow_floatOfNat significand) hy
  rw [exponentField_ofFloat]
  cases negative with
  | false => exact hfinite
  | true => exact isFinite_neg hfinite

-- =========================================================== defined

/-- Division always gives a number. -/
theorem isSome_scaled? (x : Float) (he : e < 0) : (scaled? x e).isSome = true := by
  fun_induction scaled? x e with
  | case1 | case2 | case3 | case4 => omega
  | case5 | case6 => rfl
  | case7 x e _ hstep _ ih =>
    rw [maxStep] at hstep ih
    exact ih (by omega)

theorem isSome_ofScientific?_of_neg (negative : Bool) (significand : Nat) (he : e < 0) :
    (ofScientific? negative significand e).isSome = true := by
  unfold ofScientific?
  rw [Option.isSome_map]
  exact isSome_scaled? _ he

/-- The bound at which products of two rounded numbers stay finite: three
units in the last place below the largest double. -/
theorem product_bound {q : ℚ} (h : q ≤ (2 ^ 54 - 5) * 2 ^ (970 : Int)) :
    q * (1 + 2 ^ (-53 : Int)) * (1 + 2 ^ (-53 : Int)) < 2 ^ (1024 : Int) - 2 ^ (970 : Int) := by
  have hfactor : ((2 : ℚ) ^ 54 - 5) * ((1 + 2 ^ (-53 : Int)) * (1 + 2 ^ (-53 : Int))) < 2 ^ 54 - 1 := by
    norm_num
  have htop : (2 : ℚ) ^ (1024 : Int) - 2 ^ (970 : Int) = (2 ^ 54 - 1) * 2 ^ (970 : Int) := by
    rw [show (1024 : Int) = 54 + 970 by rfl, zpow_add₀ (by norm_num)]
    ring
  have hpos : (0 : ℚ) < 2 ^ (970 : Int) := by positivity
  rw [htop, mul_assoc]
  calc q * ((1 + 2 ^ (-53 : Int)) * (1 + 2 ^ (-53 : Int)))
      ≤ (2 ^ 54 - 5) * 2 ^ (970 : Int) * ((1 + 2 ^ (-53 : Int)) * (1 + 2 ^ (-53 : Int))) :=
        mul_le_mul_of_nonneg_right h (by positivity)
    _ = (2 ^ 54 - 5) * ((1 + 2 ^ (-53 : Int)) * (1 + 2 ^ (-53 : Int))) * 2 ^ (970 : Int) := by
        ring
    _ < (2 ^ 54 - 1) * 2 ^ (970 : Int) := mul_lt_mul_of_pos_right hfactor hpos

theorem two_pow_lt_ten_pow : ((2 : ℚ) ^ 54 - 5) * 2 ^ (970 : Int) < 10 ^ 309 := by
  have hnat : 2 ^ 54 * 2 ^ 970 < 10 ^ 309 := by decide +kernel
  have hcast : (2 : ℚ) ^ 54 * 2 ^ (970 : Int) < 10 ^ 309 := by exact_mod_cast hnat
  calc ((2 : ℚ) ^ 54 - 5) * 2 ^ (970 : Int) ≤ 2 ^ 54 * 2 ^ (970 : Int) :=
        mul_le_mul_of_nonneg_right (by norm_num) (by positivity)
    _ < 10 ^ 309 := hcast

/-- A decimal three units or more below the largest double becomes one. -/
theorem isSome_ofScientific?_of_le (negative : Bool) {n k : Nat} (hn : n ≠ 0) (hlt : n < 2 ^ 64)
    (hbound : (n : ℚ) * 10 ^ k ≤ (2 ^ 54 - 5) * 2 ^ (970 : Int)) :
    (ofScientific? negative n k).isSome = true := by
  -- The power of ten is one that is kept as a double.
  have hk : k ≤ 308 := by
    have hone : (1 : ℚ) ≤ n := by exact_mod_cast Nat.pos_of_ne_zero hn
    have hpower : (10 : ℚ) ^ k < 10 ^ 309 := by
      calc (10 : ℚ) ^ k = 1 * 10 ^ k := (one_mul _).symm
        _ ≤ n * 10 ^ k := mul_le_mul_of_nonneg_right hone (by positivity)
        _ ≤ (2 ^ 54 - 5) * 2 ^ (970 : Int) := hbound
        _ < 10 ^ 309 := two_pow_lt_ten_pow
    have := (pow_lt_pow_iff_right₀ (by norm_num)).1 hpower
    omega
  have hten := tenPower_isClose hk
  have hnumber := floatOfNat_isClose hn hlt
  -- Each factor and the product are rounded once, and the bound leaves room
  -- for all three.
  have hproduct : IsFinite (floatOfNat n * tenPower k).toModel.unpack := by
    rw [mul_eq]
    refine isFinite_unpack_pack (hnumber.isFinite_mul hten (by omega) ?_)
    calc (n : ℚ) * (1 + 2 ^ (-53 : Int)) * (10 ^ k * (1 + 2 ^ (-53 : Int)))
        = n * 10 ^ k * (1 + 2 ^ (-53 : Int)) * (1 + 2 ^ (-53 : Int)) := by ring
      _ < 2 ^ (1024 : Int) - 2 ^ (970 : Int) := product_bound hbound
  have hinf : (floatOfNat n * tenPower k).isInf = false := by
    show (floatOfNat n * tenPower k).toModel.unpack.isInf = false
    cases hx : (floatOfNat n * tenPower k).toModel.unpack with
    | zero | finite | notANumber => rfl
    | infinity =>
      rw [hx] at hproduct
      exact hproduct.elim
  -- So the first of the ways that a power is brought in answers.
  have hpos : (0 : Int) ≤ k := Int.natCast_nonneg k
  have hstep : (k : Int) ≤ maxStep := by
    rw [maxStep]
    omega
  have hnone : ¬(floatOfNat n * Float.ofScientific 1 false (k : Int).toNat).isInf = true := by
    intro h
    exact Bool.false_ne_true (hinf.symm.trans h)
  unfold ofScientific? scaled?
  rw [if_pos hpos, if_pos hstep]
  simp only
  rw [if_neg hnone]
  rfl

end EventAnalytics.Double
