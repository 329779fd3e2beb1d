/-
How large the shortest decimal of a double can be.

The decimal is looked for on grids of powers of ten, starting at the power
of the leading digit (`leading_spec`), so on the first grid the double
lies between one step and ten, on the next between ten and a hundred, and
so on. What is found therefore has between one and seventeen digits, or
is the power of ten after them, and it lies in the interval of the double
(`shortest_spec`). Nothing here depends on the double being finite.

Comparisons are made by whole numbers in the program and by rationals
here; `Target.le_iff` is the bridge.
-/
import EventAnalytics.Decimal.Shortest
import EventAnalytics.Proofs.Text.Digits
import Mathlib.Algebra.Order.Field.Power
import Mathlib.Tactic.FieldSimp
import Mathlib.Tactic.Linarith
import Mathlib.Tactic.NormNum
import Mathlib.Tactic.Positivity
import Mathlib.Tactic.Ring

namespace EventAnalytics

-- ========================================================== comparing

theorem zpow_eq_div (b : ℚ) (k : Int) : b ^ k = b ^ k.toNat / b ^ (-k).toNat := by
  rcases Int.le_total 0 k with hk | hk
  · have hneg : (-k).toNat = 0 := by omega
    rw [hneg, pow_zero, div_one, ← zpow_natCast, Int.toNat_of_nonneg hk]
  · have hpos : k.toNat = 0 := by omega
    have hback : ((-k).toNat : Int) = -k := Int.toNat_of_nonneg (by omega)
    rw [hpos, pow_zero, ← zpow_natCast, hback, zpow_neg, one_div, inv_inv]

namespace Decimal

variable {t : Target}

/-- A multiple of a power of ten against a multiple of the target's unit. -/
theorem Target.le_iff (t : Target) (n m : Nat) (k : Int) :
    n * t.step k ≤ m * t.unit k ↔ (n : ℚ) * 10 ^ k ≤ m * 2 ^ t.exponent := by
  have hcast : n * t.step k ≤ m * t.unit k
      ↔ (n : ℚ) * (2 ^ (-t.exponent).toNat * 10 ^ k.toNat)
        ≤ m * (2 ^ t.exponent.toNat * 10 ^ (-k).toNat) := by
    unfold Target.step Target.unit
    simp only [Nat.pow_eq]
    exact_mod_cast Iff.rfl
  rw [hcast, zpow_eq_div 10 k, zpow_eq_div 2 t.exponent,
    ← mul_div_assoc, ← mul_div_assoc, div_le_div_iff₀ (by positivity) (by positivity)]
  constructor <;> intro h <;> linarith

/-- A comparison of whole multiples is one of rational numbers. -/
theorem Target.lt_iff (t : Target) (n m : Nat) (k : Int) :
    m * t.unit k < n * t.step k ↔ (m : ℚ) * 2 ^ t.exponent < n * 10 ^ k := by
  rw [← not_le, ← not_le, Target.le_iff]

theorem Target.step_pos (t : Target) (k : Int) : 0 < t.step k :=
  Nat.mul_pos (Nat.pow_pos (by decide)) (Nat.pow_pos (by decide))

/-- The whole part on a grid. -/
theorem Target.below_spec (t : Target) (k : Int) :
    ((t.middle * t.unit k / t.step k : Nat) : ℚ) * 10 ^ k ≤ t.middle * 2 ^ t.exponent
      ∧ (t.middle : ℚ) * 2 ^ t.exponent < ((t.middle * t.unit k / t.step k + 1 : Nat) : ℚ) * 10 ^ k := by
  refine ⟨(t.le_iff _ _ k).1 (Nat.div_mul_le_self _ _), (t.lt_iff _ _ k).1 ?_⟩
  exact Nat.lt_mul_of_div_lt (Nat.lt_succ_self _) (t.step_pos k)

-- ==================================================== the leading digit

theorem Target.middle_ofDouble (d : Double) : (Target.ofDouble d).middle = 4 * d.significand := rfl

theorem Target.exponent_ofDouble (d : Double) : -1076 ≤ (Target.ofDouble d).exponent := by
  show -1076 ≤ d.exponent - 2
  unfold Double.exponent
  split <;> omega

theorem two_pow_le_ten_pow : (2 : ℚ) ^ (1076 : Int) ≤ 10 ^ (350 : Int) := by
  calc (2 : ℚ) ^ (1076 : Int) ≤ 2 ^ (1155 : Int) := zpow_le_zpow_right₀ (by norm_num) (by norm_num)
    _ = (2 ^ 33) ^ 35 := by rw [← pow_mul]; rfl
    _ ≤ (10 ^ 10) ^ 35 := pow_le_pow_left₀ (by norm_num) (by norm_num) 35
    _ = 10 ^ (350 : Int) := by rw [← pow_mul]; rfl

/-- The first grid that is searched is fine enough for every double. -/
theorem finest_ne_zero {d : Double} (h : d.significand ≠ 0) :
    let t := Target.ofDouble d
    t.middle * t.unit (-350) / t.step (-350) ≠ 0 := by
  intro t
  have hsmall : 1 * t.step (-350) ≤ t.middle * t.unit (-350) := by
    rw [Target.le_iff, Target.middle_ofDouble]
    have hexponent : (2 : ℚ) ^ (-1076 : Int) ≤ 2 ^ t.exponent :=
      zpow_le_zpow_right₀ (by norm_num) (Target.exponent_ofDouble d)
    have hten : (10 : ℚ) ^ (-350 : Int) ≤ 2 ^ (-1076 : Int) := by
      rw [zpow_neg, zpow_neg]
      exact inv_anti₀ (by positivity) two_pow_le_ten_pow
    have hone : (1 : ℚ) ≤ (4 * d.significand : Nat) := by
      exact_mod_cast (by omega : 1 ≤ 4 * d.significand)
    calc ((1 : Nat) : ℚ) * 10 ^ (-350 : Int) ≤ 1 * 2 ^ t.exponent := by
          rw [Nat.cast_one]
          linarith
      _ ≤ (4 * d.significand : Nat) * 2 ^ t.exponent :=
          mul_le_mul_of_nonneg_right hone (by positivity)
  rw [Nat.one_mul] at hsmall
  exact (Nat.div_pos hsmall (t.step_pos (-350))).ne'

/-- The power of the leading digit is that: the double lies between it and
the next. -/
theorem leading_spec {d : Double} (h : d.significand ≠ 0) :
    let t := Target.ofDouble d
    (10 : ℚ) ^ t.leading ≤ t.middle * 2 ^ t.exponent
      ∧ (t.middle : ℚ) * 2 ^ t.exponent < 10 ^ (t.leading + 1) := by
  intro t
  have hq : t.middle * t.unit (-350) / t.step (-350) ≠ 0 := finest_ne_zero h
  obtain ⟨hbelow, habove⟩ := t.below_spec (-350)
  obtain ⟨hlt, hle⟩ := Text.numeral_bounds (t.middle * t.unit (-350) / t.step (-350))
  have hlow := hle hq
  have hpos : 0 < (Text.numeral (t.middle * t.unit (-350) / t.step (-350))).length :=
    List.length_pos_iff.2 (Text.numeral_ne_nil _)
  have hleading : t.leading
      = ((Text.numeral (t.middle * t.unit (-350) / t.step (-350))).length : Int) - 1 + -350 := rfl
  -- From here on the argument is one about the length of a numeral.
  generalize t.middle * t.unit (-350) / t.step (-350) = q at *
  generalize (Text.numeral q).length = len at *
  constructor
  · have hpow : (10 : ℚ) ^ t.leading = ((10 ^ (len - 1) : Nat) : ℚ) * 10 ^ (-350 : Int) := by
      rw [hleading, zpow_add₀ (by norm_num)]
      congr 1
      rw [Nat.cast_pow, ← zpow_natCast]
      congr 1
      omega
    rw [hpow]
    refine le_trans (mul_le_mul_of_nonneg_right ?_ (by positivity)) hbelow
    exact_mod_cast hlow
  · have hpow : (10 : ℚ) ^ (t.leading + 1) = ((10 ^ len : Nat) : ℚ) * 10 ^ (-350 : Int) := by
      rw [hleading, show ((len : Int) - 1 + -350 + 1) = (len : Int) + -350 by omega,
        zpow_add₀ (by norm_num), zpow_natCast, Nat.cast_pow]
      rfl
    rw [hpow]
    refine lt_of_lt_of_le habove (mul_le_mul_of_nonneg_right ?_ (by positivity))
    exact_mod_cast hlt

-- ================================================ what can be found

def value (d : Decimal) : ℚ := d.digits * 10 ^ d.exponent

/-- A decimal that lies in the target is not above its upper end. -/
theorem Target.le_high {n : Nat} {k : Int} (h : t.holds n k = true) :
    (n : ℚ) * 10 ^ k ≤ t.high * 2 ^ t.exponent := by
  rw [← Target.le_iff]
  unfold Target.holds at h
  simp only at h
  split at h
  · simp only [Bool.and_eq_true, decide_eq_true_eq] at h
    exact h.2
  · simp only [Bool.and_eq_true, decide_eq_true_eq] at h
    exact h.2.le

/-- A decimal on a grid is the whole part there or the number after it,
and lies in the interval. -/
theorem Target.onGrid?_cases {k : Int} {r : Decimal} (h : t.onGrid? k = some r) :
    r.exponent = k ∧ (r.digits = t.middle * t.unit k / t.step k
        ∨ r.digits = t.middle * t.unit k / t.step k + 1)
      ∧ r.value ≤ t.high * 2 ^ t.exponent := by
  unfold Target.onGrid? at h
  simp only at h
  split at h
  · next hbelow habove =>
    split at h
    · cases h
      exact ⟨rfl, .inl rfl, Target.le_high hbelow⟩
    · cases h
      exact ⟨rfl, .inr rfl, Target.le_high habove⟩
  · next hbelow _ =>
    cases h
    exact ⟨rfl, .inl rfl, Target.le_high hbelow⟩
  · next _ habove =>
    cases h
    exact ⟨rfl, .inr rfl, Target.le_high habove⟩
  · cases h

/-- Taking zeros off the end keeps the value and does not lengthen the
digits. -/
theorem stripped_spec (d : Decimal) :
    d.stripped.value = d.value ∧ d.stripped.digits ≤ d.digits
      ∧ (d.digits ≠ 0 → d.stripped.digits ≠ 0) := by
  fun_induction stripped d with
  | case1 d h ih =>
    obtain ⟨hvalue, hle, hne⟩ := ih
    have hdigits : d.digits / 10 * 10 = d.digits := by omega
    refine ⟨?_, by simp only at hle; omega, fun _ => hne (by simp only; omega)⟩
    rw [hvalue]
    unfold value
    rw [zpow_add₀ (by norm_num), ← hdigits]
    push_cast
    simp
    ring
  | case2 d h => exact ⟨rfl, le_refl _, fun h => h⟩

/-- On the grids from the leading digit down, the whole part has at least one
digit and at most seventeen. -/
theorem Target.below_bounds {n : Nat} (hn : n < 17)
    (hlow : (10 : ℚ) ^ t.leading ≤ t.middle * 2 ^ t.exponent)
    (hhigh : (t.middle : ℚ) * 2 ^ t.exponent < 10 ^ (t.leading + 1)) :
    0 < t.middle * t.unit (t.leading - n) / t.step (t.leading - n)
      ∧ t.middle * t.unit (t.leading - n) / t.step (t.leading - n) < 10 ^ 17 := by
  obtain ⟨hbelow, habove⟩ := t.below_spec (t.leading - n)
  generalize t.middle * t.unit (t.leading - n) / t.step (t.leading - n) = q at *
  constructor
  · rcases Nat.eq_zero_or_pos q with rfl | hpos
    · have hgrid : (10 : ℚ) ^ (t.leading - n) ≤ 10 ^ t.leading :=
        zpow_le_zpow_right₀ (by norm_num) (by omega)
      simp only [Nat.zero_add, Nat.cast_one, one_mul] at habove
      linarith
    · exact hpos
  · by_contra hge
    have hge : 10 ^ 17 ≤ q := not_lt.1 hge
    have hcast : ((10 : ℚ) ^ (17 : Int)) ≤ q := by exact_mod_cast hge
    have hself : (10 : ℚ) ^ (t.leading + 1) < 10 ^ (t.leading + 1) := by
      calc (10 : ℚ) ^ (t.leading + 1) ≤ 10 ^ (17 + (t.leading - n)) :=
            zpow_le_zpow_right₀ (by norm_num) (by omega)
        _ = 10 ^ (17 : Int) * 10 ^ (t.leading - n) := zpow_add₀ (by norm_num) _ _
        _ ≤ q * 10 ^ (t.leading - n) := mul_le_mul_of_nonneg_right hcast (by positivity)
        _ ≤ t.middle * 2 ^ t.exponent := hbelow
        _ < 10 ^ (t.leading + 1) := hhigh
    exact lt_irrefl _ hself

/-- The shortest decimal is zero, or has at least one digit and at most
seventeen, or is the power of ten after them, and lies in the interval. -/
theorem shortest_spec {d : Double} (h : d.significand ≠ 0) :
    shortest d = ⟨0, 0⟩
      ∨ (shortest d).digits ≠ 0 ∧ (shortest d).digits ≤ 10 ^ 17
        ∧ (shortest d).value
          ≤ (Target.ofDouble d).high * 2 ^ (Target.ofDouble d).exponent := by
  obtain ⟨hlow, hhigh⟩ := leading_spec h
  unfold shortest
  simp only
  generalize Target.ofDouble d = t at *
  cases hfound : (List.range 17).findSome? fun (n : Nat) => t.onGrid? (t.leading - n) with
  | none =>
    refine .inl ?_
    rw [Option.getD_none]
    unfold stripped
    rfl
  | some r =>
    obtain ⟨n, hn, hgrid⟩ := List.exists_of_findSome?_eq_some hfound
    have hn17 : n < 17 := List.mem_range.1 hn
    obtain ⟨hk, hdigits, hvalue⟩ := Target.onGrid?_cases hgrid
    obtain ⟨hpos, hlt⟩ := Target.below_bounds hn17 hlow hhigh
    obtain ⟨hstripped, hle, hne⟩ := r.stripped_spec
    refine .inr ⟨hne (by omega), by simp only [Option.getD_some]; omega, ?_⟩
    rw [Option.getD_some, hstripped]
    exact hvalue

end Decimal

end EventAnalytics
