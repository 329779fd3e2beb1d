/-
Rounding to the format of doubles, from above.

Machine floats are computed on a sign, a mantissa and an exponent, and
every result is rounded by shifting the mantissa down to 53 bits. Two
things are wanted of this here. A result that was rounded exactly exceeds
the exact value by half a unit in the last place at most
(`round_le_half`), and however a result was rounded, its binary magnitude
grows by one at most (`Modest`). The first bounds a product from above as
closely as it takes to rule out an overflow; the second is enough for
everything that is far from one.
-/
import Mathlib.Algebra.Order.Field.Power
import Mathlib.Data.Nat.Log
import Mathlib.Tactic.FieldSimp
import Mathlib.Tactic.Linarith
import Mathlib.Tactic.NormNum
import Mathlib.Tactic.Positivity
import Mathlib.Tactic.Ring

namespace EventAnalytics.Rounding

open Float.Model (UnpackedFloat Format)
open Float.Model.UnpackedFloat

-- ============================================================ shifting

/-- Shifting divides, and a round bit stands for half a unit. -/
theorem shift_spec (em : ExtendedMantissa) (k : Nat) :
    (em >>> k).mantissa = em.mantissa / 2 ^ k
      ∧ (0 < k → (em >>> k).roundBit = true →
        2 * (em.mantissa / 2 ^ k) * 2 ^ k + 2 ^ k ≤ 2 * em.mantissa) := by
  induction k with
  | zero => exact ⟨(Nat.div_one _).symm, fun h => absurd h (lt_irrefl 0)⟩
  | succ k ih =>
    have hstep : em >>> (k + 1) = (em >>> k).shiftRightOne := rfl
    have hmantissa : (em >>> (k + 1)).mantissa = em.mantissa / 2 ^ (k + 1) := by
      rw [hstep, Nat.pow_succ, ← Nat.div_div_eq_div_mul]
      show (em >>> k).mantissa / 2 = _
      rw [ih.1]
    refine ⟨hmantissa, ?_⟩
    intro _ hround
    -- the bit that goes out is the last one of what was shifted before
    have hodd : em.mantissa / 2 ^ k % 2 = 1 := by
      rw [hstep] at hround
      have hbit : ((em >>> k).mantissa % 2 != 0) = true := hround
      rw [ih.1, bne_iff_ne] at hbit
      omega
    have hhalf : em.mantissa / 2 ^ (k + 1) = em.mantissa / 2 ^ k / 2 := by
      rw [Nat.pow_succ, ← Nat.div_div_eq_div_mul]
    have hle : em.mantissa / 2 ^ k * 2 ^ k ≤ em.mantissa := Nat.div_mul_le_self _ _
    have hsplit : em.mantissa / 2 ^ k = 2 * (em.mantissa / 2 ^ k / 2) + 1 := by omega
    rw [hhalf, Nat.pow_succ]
    -- with the quotient as a number of its own, the rest is arithmetic
    generalize em.mantissa / 2 ^ k / 2 = q at *
    rw [hsplit] at hle
    nlinarith

/-- Rounding takes the mantissa or, when there is a round bit, perhaps the
next number. -/
theorem roundedMantissa_cases (em : ExtendedMantissa) :
    em.roundedMantissa = em.mantissa
      ∨ em.roundBit = true ∧ em.roundedMantissa = em.mantissa + 1 := by
  obtain ⟨m, r, s⟩ := em
  cases r with
  | false => cases s <;> exact .inl rfl
  | true =>
    cases s with
    | true => exact .inr ⟨rfl, rfl⟩
    | false =>
      have hform : (⟨m, true, false⟩ : ExtendedMantissa).roundedMantissa = m + m % 2 := rfl
      rw [hform]
      rcases Nat.mod_two_eq_zero_or_one m with h | h
      · exact .inl (by rw [h]; rfl)
      · exact .inr ⟨rfl, by rw [h]⟩

-- ==================================================== exact rounding

theorem minExponent_eq : Format.binary64.minExponent = -1074 := by decide

theorem mantissaBits_eq : Format.binary64.mantissaBits = 53 := rfl

/-- The exponent that rounding aims at keeps 53 bits, unless that is below
the smallest one. -/
theorem targetExponent_eq (m : Nat) (e : Int) :
    Format.binary64.targetExponent (Float.Model.totalExponent m e)
      = max (m.log2 + e - 52) (-1074) := by
  unfold Format.targetExponent Float.Model.totalExponent
  rw [minExponent_eq, mantissaBits_eq]
  congr 1
  push_cast
  ring

/-- The mantissa and the exponent after a first shift and rounding. -/
def rounded (m : Nat) (e : Int) (acc : Accuracy) : Nat × Int :=
  let s := shiftToTargetExponent Format.binary64 m e acc
  (s.1.roundedMantissa, s.2)

/-- A result is what the second shift leaves of the rounded mantissa. -/
theorem roundWithAccuracy_eq (s : Sign) (m : Nat) (e : Int) (acc : Accuracy) :
    roundWithAccuracy Format.binary64 s m e acc
      = (let t := shiftToTargetExponent Format.binary64 (rounded m e acc).1 (rounded m e acc).2
          .exact
        if h : t.1.mantissa = 0 then .zero s
        else .finite s t.1.mantissa t.2 (Nat.pos_of_ne_zero h)) :=
  rfl

theorem two_pow_log2_le {m : Nat} (h : m ≠ 0) : 2 ^ m.log2 ≤ m ∧ m < 2 ^ (m.log2 + 1) :=
  ⟨Nat.log2_self_le h, Nat.lt_log2_self⟩

theorem log2_eq {m k : Nat} (hlow : 2 ^ k ≤ m) (hhigh : m < 2 ^ (k + 1)) : m.log2 = k := by
  have hm : m ≠ 0 := by
    rintro rfl
    exact absurd (Nat.two_pow_pos k) (by omega)
  exact (Nat.log2_eq_iff hm).2 ⟨hlow, hhigh⟩

/-- What the first shift and the rounding leave has 53 bits, or is the
power of two after them and is halved. -/
theorem second_shift (s : Sign) {r : Nat} {e : Int} (hlow : 2 ^ 52 ≤ r) (hhigh : r ≤ 2 ^ 53)
    (he : -1074 ≤ e) :
    ∃ m' e' h, (let t := shiftToTargetExponent Format.binary64 r e .exact
        if h : t.1.mantissa = 0 then UnpackedFloat.zero s
        else .finite s t.1.mantissa t.2 (Nat.pos_of_ne_zero h)) = .finite s m' e' h
      ∧ m'.log2 = 52 ∧ e ≤ e' ∧ e' ≤ e + 1 ∧ (m' : ℚ) * 2 ^ e' = r * 2 ^ e := by
  -- below the power of two nothing is shifted
  rcases Nat.lt_or_eq_of_le hhigh with hlt | rfl
  · have hlog : r.log2 = 52 := log2_eq hlow hlt
    have hshift : shiftToTargetExponent Format.binary64 r e .exact = (⟨r, false, false⟩, e) := by
      have hamount : (max ((52 : Int) + e - 52) (-1074) - e).toNat = 0 := by omega
      unfold shiftToTargetExponent shiftToExponent
      rw [targetExponent_eq, hlog]
      simp only [Nat.cast_ofNat, hamount]
      exact congrArg₂ Prod.mk rfl (Int.add_zero e)
    have hr : r ≠ 0 := by
      rintro rfl
      exact absurd hlow (by decide)
    rw [hshift]
    refine ⟨r, e, Nat.pos_of_ne_zero hr, dif_neg hr, hlog, le_refl e, by omega, rfl⟩
  -- at the power of two one bit is
  · have hlog : (2 ^ 53 : Nat).log2 = 53 := log2_eq (le_refl _) (by decide)
    have hshift : shiftToTargetExponent Format.binary64 (2 ^ 53) e .exact
        = (⟨2 ^ 52, false, false⟩, e + 1) := by
      have hamount : (max ((53 : Int) + e - 52) (-1074) - e).toNat = 1 := by omega
      unfold shiftToTargetExponent shiftToExponent
      rw [targetExponent_eq, hlog]
      simp only [Nat.cast_ofNat, hamount]
      rfl
    rw [hshift]
    have hne : (2 ^ 52 : Nat) ≠ 0 := by decide
    refine ⟨2 ^ 52, e + 1, by decide, dif_neg hne, log2_eq (le_refl _) (by decide),
      by omega, le_refl _, ?_⟩
    rw [zpow_add₀ (by norm_num)]
    norm_num
    ring

/-- The first shift leaves 53 bits, which are then rounded to within half of
what was shifted out. -/
theorem rounded_exact {m k : Nat} {e : Int} (hm : m.log2 = 52 + k) (he : -1074 ≤ e + k) :
    ∃ r, rounded m e .exact = (r, e + k) ∧ 2 ^ 52 ≤ r ∧ r ≤ 2 ^ 53
      ∧ 2 * r * 2 ^ k ≤ 2 * m + 2 ^ k := by
  have hm0 : m ≠ 0 := by
    rintro rfl
    rw [Nat.log2_zero] at hm
    omega
  obtain ⟨hlow, hhigh⟩ := two_pow_log2_le hm0
  rw [hm] at hlow hhigh
  have hshift : shiftToTargetExponent Format.binary64 m e .exact
      = ((⟨m, false, false⟩ : ExtendedMantissa) >>> k, e + k) := by
    have hamount : (max (m.log2 + e - 52) (-1074) - e).toNat = k := by omega
    unfold shiftToTargetExponent shiftToExponent
    rw [targetExponent_eq]
    simp only [hamount]
    rfl
  obtain ⟨hmantissa, hround⟩ := shift_spec ⟨m, false, false⟩ k
  -- what is left has 53 bits, since just the others are shifted out
  have hq1 : 2 ^ 52 ≤ m / 2 ^ k := by
    rw [Nat.le_div_iff_mul_le (Nat.two_pow_pos k), ← Nat.pow_add]
    exact hlow
  have hq2 : m / 2 ^ k < 2 ^ 53 := by
    rw [Nat.div_lt_iff_lt_mul (Nat.two_pow_pos k), ← Nat.pow_add]
    convert hhigh using 2
    omega
  have hle : m / 2 ^ k * 2 ^ k ≤ m := Nat.div_mul_le_self _ _
  refine ⟨((⟨m, false, false⟩ : ExtendedMantissa) >>> k).roundedMantissa, ?_, ?_⟩
  · unfold rounded
    rw [hshift]
  -- rounding goes down, or up when half a unit or more was shifted out
  · rcases roundedMantissa_cases ((⟨m, false, false⟩ : ExtendedMantissa) >>> k)
      with heq | ⟨hbit, heq⟩
    · rw [heq, hmantissa]
      refine ⟨hq1, hq2.le, ?_⟩
      show 2 * (m / 2 ^ k) * 2 ^ k ≤ 2 * m + 2 ^ k
      nlinarith
    · have hk0 : 0 < k := by
        rcases Nat.eq_zero_or_pos k with rfl | h
        · cases hbit
        · exact h
      rw [heq, hmantissa]
      refine ⟨by show 2 ^ 52 ≤ m / 2 ^ k + 1; omega, by show m / 2 ^ k + 1 ≤ 2 ^ 53; omega, ?_⟩
      have hhalf := hround hk0 hbit
      show 2 * (m / 2 ^ k + 1) * 2 ^ k ≤ 2 * m + 2 ^ k
      simp only at hhalf
      nlinarith

/-- A mantissa of 53 bits or more is rounded to 53 bits, to a value above
it by half a unit in the last place at most. -/
theorem round_le_half (s : Sign) {m : Nat} {e : Int} (hm : 2 ^ 52 ≤ m)
    (he : -1074 ≤ m.log2 + e - 52) :
    ∃ m' e' h, roundWithAccuracy Format.binary64 s m e .exact = .finite s m' e' h
      ∧ m'.log2 = 52 ∧ m.log2 + e - 52 ≤ e' ∧ e' ≤ m.log2 + e - 51
      ∧ (m' : ℚ) * 2 ^ e' ≤ m * 2 ^ e + 2 ^ (m.log2 + e - 53) := by
  have hm0 : m ≠ 0 := by
    rintro rfl
    exact absurd hm (by decide)
  have hlog : 52 ≤ m.log2 := (Nat.le_log2 hm0).2 hm
  obtain ⟨k, hk⟩ : ∃ k, m.log2 = 52 + k := ⟨m.log2 - 52, by omega⟩
  obtain ⟨r, hr, hr1, hr2, hr3⟩ := rounded_exact hk (by omega : -1074 ≤ e + k)
  obtain ⟨m', e', h, heq, hlog', hge, hle', hvalue⟩ :=
    second_shift s hr1 hr2 (by omega : -1074 ≤ e + k)
  refine ⟨m', e', h, ?_, hlog', by omega, by omega, ?_⟩
  · rw [roundWithAccuracy_eq, hr]
    exact heq
  · have hhalf : (2 : ℚ) ^ (m.log2 + e - 53) = 2 ^ e * 2 ^ k / 2 := by
      rw [show (m.log2 : Int) + e - 53 = e + k - 1 by omega, zpow_sub₀ (by norm_num),
        zpow_add₀ (by norm_num), zpow_natCast, zpow_one]
    have hcast : (2 : ℚ) * r * 2 ^ k ≤ 2 * m + 2 ^ k := by exact_mod_cast hr3
    have hpos : (0 : ℚ) < 2 ^ e := by positivity
    rw [hvalue, hhalf, zpow_add₀ (by norm_num), zpow_natCast]
    nlinarith

-- ================================================== binary magnitudes

/-- Zero, or finite and of a binary magnitude of `b` at most. -/
def IsBelow (b : Int) : UnpackedFloat → Prop
  | .zero _ => True
  | .finite _ m e _ => m.log2 + e ≤ b
  | _ => False

/-- A larger bound on the magnitude holds as well. -/
theorem IsBelow.mono {b c : Int} (h : b ≤ c) {f : UnpackedFloat} (hf : IsBelow b f) :
    IsBelow c f := by
  cases f with
  | zero => trivial
  | finite s m e hm => exact Int.le_trans hf h
  | infinity | notANumber => exact hf

theorem log2_div_two_pow (m k : Nat) : (m / 2 ^ k).log2 = m.log2 - k := by
  rw [Nat.log2_eq_log_two, Nat.log2_eq_log_two, Nat.log_div_base_pow]

theorem log2_succ_le (m : Nat) : (m + 1).log2 ≤ m.log2 + 1 := by
  refine Nat.lt_succ_iff.1 ((Nat.log2_lt (Nat.succ_ne_zero m)).2 ?_)
  have hlt : m < 2 ^ (m.log2 + 1) := Nat.lt_log2_self
  calc m + 1 ≤ 2 ^ (m.log2 + 1) := hlt
    _ < 2 ^ (m.log2 + 1 + 1) := Nat.pow_lt_pow_right (by decide) (Nat.lt_succ_self _)

/-- A shift moves the exponent as it divides the mantissa. -/
theorem shift_eq (m : Nat) (e : Int) (acc : Accuracy) :
    ∃ k : Nat, (shiftToTargetExponent Format.binary64 m e acc).1.mantissa = m / 2 ^ k
      ∧ (shiftToTargetExponent Format.binary64 m e acc).2 = e + k
      ∧ (0 < k → e + k = max (m.log2 + e - 52) (-1074)) := by
  refine ⟨(max (m.log2 + e - 52) (-1074) - e).toNat, ?_, ?_, by omega⟩
  · unfold shiftToTargetExponent shiftToExponent
    rw [targetExponent_eq]
    simp only
    rw [(shift_spec _ _).1]
    cases acc with
    | exact => rfl
    | inexact o => cases o <;> rfl
  · unfold shiftToTargetExponent shiftToExponent
    rw [targetExponent_eq]

/-- What is rounded vanishes, or its digits are shifted out once more. -/
theorem roundWithAccuracy_cases (s : Sign) (m : Nat) (e : Int) (acc : Accuracy) :
    roundWithAccuracy Format.binary64 s m e acc = .zero s
      ∨ ∃ (k : Nat) (h : _), roundWithAccuracy Format.binary64 s m e acc
        = .finite s ((rounded m e acc).1 / 2 ^ k) ((rounded m e acc).2 + k) h := by
  obtain ⟨k, hmantissa, hexponent, _⟩ := shift_eq (rounded m e acc).1 (rounded m e acc).2 .exact
  rw [roundWithAccuracy_eq]
  dsimp only
  by_cases hzero : (shiftToTargetExponent Format.binary64 (rounded m e acc).1 (rounded m e acc).2
      .exact).1.mantissa = 0
  · exact .inl (dif_pos hzero)
  · refine .inr ⟨k, hmantissa ▸ Nat.pos_of_ne_zero hzero, ?_⟩
    rw [dif_neg hzero, UnpackedFloat.finite.injEq]
    exact ⟨rfl, hmantissa, hexponent⟩

/-- Rounding makes the binary magnitude larger by one at most. -/
theorem log2_rounded_le {b : Int} (hb : -1074 ≤ b) {m : Nat} {e : Int} (acc : Accuracy)
    (h : m.log2 + e ≤ b) : (rounded m e acc).1.log2 + (rounded m e acc).2 ≤ b + 1 := by
  obtain ⟨k, hmantissa, hexponent, htarget⟩ := shift_eq m e acc
  -- rounding takes the shifted mantissa or the next number
  have hle : (rounded m e acc).1 = m / 2 ^ k ∨ (rounded m e acc).1 = m / 2 ^ k + 1 := by
    rw [← hmantissa]
    rcases roundedMantissa_cases (shiftToTargetExponent Format.binary64 m e acc).1
      with heq | ⟨_, heq⟩
    · exact .inl heq
    · exact .inr heq
  have hsecond : (rounded m e acc).2 = e + k := hexponent
  rw [hsecond]
  by_cases hk : k ≤ m.log2
  · have hdiv := log2_div_two_pow m k
    rcases hle with heq | heq
    · rw [heq]
      omega
    · rw [heq]
      have := log2_succ_le (m / 2 ^ k)
      omega
  · -- the shift took every digit, so at most one is left
    have hzero : m / 2 ^ k = 0 := by
      rcases Nat.eq_zero_or_pos m with rfl | hm
      · exact Nat.zero_div _
      · exact Nat.div_eq_of_lt ((Nat.log2_lt (by omega)).1 (by omega))
    have hone : (rounded m e acc).1.log2 = 0 := by
      rcases hle with heq | heq
      · rw [heq, hzero]
        exact Nat.log2_zero
      · rw [heq, hzero]
        exact log2_eq (by decide) (by decide)
    have := htarget (by omega)
    omega

/-- However a result is rounded, its binary magnitude grows by one at
most. -/
theorem isBelow_round {b : Int} (hb : -1074 ≤ b) (s : Sign) {m : Nat} {e : Int} (acc : Accuracy)
    (h : m.log2 + e ≤ b) :
    IsBelow (b + 1) (roundWithAccuracy Format.binary64 s m e acc) := by
  have hrounded := log2_rounded_le hb acc h
  rcases roundWithAccuracy_cases s m e acc with heq | ⟨k, hpos, heq⟩
  · rw [heq]
    trivial
  · rw [heq]
    show (((rounded m e acc).1 / 2 ^ k).log2 : Int) + ((rounded m e acc).2 + k) ≤ b + 1
    rw [log2_div_two_pow]
    have hk : k ≤ (rounded m e acc).1.log2 := by
      by_contra hlt
      have hne : (rounded m e acc).1 ≠ 0 := by
        intro hzero
        rw [hzero, Nat.zero_div] at hpos
        exact Nat.lt_irrefl 0 hpos
      have hsmall : (rounded m e acc).1 < 2 ^ k := (Nat.log2_lt hne).1 (Nat.lt_of_not_le hlt)
      exact absurd (Nat.div_eq_of_lt hsmall) hpos.ne'
    omega

end EventAnalytics.Rounding
