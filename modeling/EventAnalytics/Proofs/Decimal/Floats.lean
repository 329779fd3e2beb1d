/-
Whole numbers and powers of ten as machine floats.

Both are within a relative half unit of what they stand for
(`floatOfNat_spec`, `tenPower_spec`), so a product of the two exceeds the
exact product by little more than a unit in the last place, and it does
not overflow while the exact product stays three units below the largest
double (`isFinite_product`). A quotient by a power of ten does not grow
(`isBelow_quotient`).
-/
import EventAnalytics.Proofs.Decimal.Packing

namespace EventAnalytics.Rounding

open Float.Model (UnpackedFloat Format)
open Float.Model.UnpackedFloat

-- ====================================================== close numbers

/-- A float of 53 bits with an exponent between two bounds, which exceeds
a number by a relative half unit at most. -/
def IsClose (lowest highest : Int) (q : ℚ) : UnpackedFloat → Prop
  | .finite _ m e _ =>
    m.log2 = 52 ∧ lowest ≤ e ∧ e ≤ highest ∧ (m : ℚ) * 2 ^ e ≤ q * (1 + 2 ^ (-53 : Int))
  | _ => False

/-- The half unit of a rounded number, taken relative to it. -/
theorem round_isClose (s : Sign) {m : Nat} {e : Int} (hm : 2 ^ 52 ≤ m)
    (he : -1074 ≤ m.log2 + e - 52) :
    IsClose (m.log2 + e - 52) (m.log2 + e - 51) (m * 2 ^ e)
      (roundWithAccuracy Format.binary64 s m e .exact) := by
  obtain ⟨m', e', h, heq, hlog, hlow, hhigh, hvalue⟩ := round_le_half s hm he
  rw [heq]
  refine ⟨hlog, hlow, hhigh, le_trans hvalue ?_⟩
  have hm0 : m ≠ 0 := by
    rintro rfl
    exact absurd hm (by decide)
  have hself : (2 : ℚ) ^ m.log2 ≤ m := by exact_mod_cast Nat.log2_self_le hm0
  have hsplit : (2 : ℚ) ^ ((m.log2 : Int) + e - 53) = 2 ^ m.log2 * (2 ^ e * 2 ^ (-53 : Int)) := by
    rw [← zpow_natCast, ← zpow_add₀ (by norm_num), ← zpow_add₀ (by norm_num)]
    congr 1
    omega
  have hpos : (0 : ℚ) ≤ 2 ^ e * 2 ^ (-53 : Int) := by positivity
  rw [hsplit]
  nlinarith [mul_le_mul_of_nonneg_right hself hpos]

/-- A close number that is not too large stays so when it is packed. -/
theorem IsClose.unpack_pack {lowest highest : Int} {q : ℚ} {f : UnpackedFloat}
    (hlowest : -1074 ≤ lowest) (hhighest : highest ≤ 971) (h : IsClose lowest highest q f) :
    IsClose lowest highest q (Float.Model.pack f).unpack := by
  cases f with
  | finite s m e hm =>
    obtain ⟨hlog, hlow, hhigh, hvalue⟩ := h
    obtain ⟨s', heq⟩ := unpack_pack_normal s hm hlog (Int.le_trans hlowest hlow)
      (Int.le_trans hhigh hhighest)
    rw [heq]
    exact ⟨hlog, hlow, hhigh, hvalue⟩
  | zero | infinity | notANumber => exact h.elim

/-- Wider bounds on the exponent hold as well. -/
theorem IsClose.mono {lowest lowest' highest highest' : Int} {q : ℚ} {f : UnpackedFloat}
    (hlowest : lowest' ≤ lowest) (hhighest : highest ≤ highest')
    (h : IsClose lowest highest q f) : IsClose lowest' highest' q f := by
  cases f with
  | finite s m e hm =>
    obtain ⟨hlog, hlow, hhigh, hvalue⟩ := h
    exact ⟨hlog, Int.le_trans hlowest hlow, Int.le_trans hhigh hhighest, hvalue⟩
  | zero | infinity | notANumber => exact h.elim

/-- How large a number of 53 bits is bounds its exponent. -/
theorem exponent_le_of_value_lt {m : Nat} {e x : Int} (hm : 0 < m) (hlog : m.log2 = 52)
    (h : (m : ℚ) * 2 ^ e < 2 ^ (x + 53)) : e ≤ x := by
  have hm52 : (2 : ℚ) ^ (52 : Int) ≤ m := by
    have hself := Nat.log2_self_le (Nat.pos_iff_ne_zero.1 hm)
    rw [hlog] at hself
    exact_mod_cast hself
  have hlt : (2 : ℚ) ^ (52 + e) < 2 ^ (x + 53) := by
    calc (2 : ℚ) ^ (52 + e) = 2 ^ (52 : Int) * 2 ^ e := zpow_add₀ (by norm_num) _ _
      _ ≤ m * 2 ^ e := mul_le_mul_of_nonneg_right hm52 (by positivity)
      _ < 2 ^ (x + 53) := h
  have := (zpow_lt_zpow_iff_right₀ (by norm_num)).1 hlt
  omega

/-- A float that is close to a small number has a small exponent. -/
theorem IsClose.tighten {lowest highest x : Int} {q : ℚ} {f : UnpackedFloat}
    (h : IsClose lowest highest q f) (hq : q * (1 + 2 ^ (-53 : Int)) < 2 ^ (x + 53)) :
    IsClose lowest x q f := by
  cases f with
  | finite s m e hm =>
    obtain ⟨hlog, hlow, hhigh, hvalue⟩ := h
    exact ⟨hlog, hlow, exponent_le_of_value_lt hm hlog (lt_of_le_of_lt hvalue hq), hvalue⟩
  | zero | infinity | notANumber => exact h.elim

/-- A float that is close to a number has a bounded magnitude. -/
theorem IsClose.isBelow {lowest highest b : Int} {q : ℚ} {f : UnpackedFloat}
    (hb : highest + 52 ≤ b) (h : IsClose lowest highest q f) : IsBelow b f := by
  cases f with
  | finite s m e hm =>
    obtain ⟨hlog, hlow, hhigh, hvalue⟩ := h
    show (m.log2 : Int) + e ≤ b
    omega
  | zero | infinity | notANumber => exact h.elim

-- ====================================================== whole numbers

theorem log2_mul_two_pow {n : Nat} (hn : n ≠ 0) (k : Nat) : (n * 2 ^ k).log2 = n.log2 + k := by
  obtain ⟨hlow, hhigh⟩ := two_pow_log2_le hn
  apply log2_eq
  · rw [Nat.pow_add]
    exact Nat.mul_le_mul_right _ hlow
  · rw [Nat.add_right_comm, Nat.pow_add]
    exact Nat.mul_lt_mul_of_pos_right hhigh (Nat.two_pow_pos k)

/-- A whole number is made 53 bits long, if it is shorter, and rounded. -/
theorem ofNat_eq {n : Nat} (hn : n ≠ 0) :
    UnpackedFloat.ofNat Format.binary64 n
      = roundWithAccuracy Format.binary64 .positive (n * 2 ^ (52 - n.log2))
          (-(52 - n.log2 : Nat)) .exact := by
  have hcompare : compare (n : Int) 0 = .gt := by
    rw [Int.compare_eq_gt]
    omega
  have hamount : (0 - max ((n.log2 : Int) + 0 - 52) (-1074)).toNat = 52 - n.log2 := by omega
  unfold UnpackedFloat.ofNat UnpackedFloat.ofInt UnpackedFloat.normalize
  rw [hcompare]
  simp only
  unfold UnpackedFloat.round decreaseExponent
  rw [Int.toNat_natCast, targetExponent_eq]
  simp only
  rw [hamount, Nat.shiftLeft_eq, Int.zero_sub]

/-- A positive whole number of 64 bits as a machine float. -/
theorem ofNat_isClose {n : Nat} (hn : n ≠ 0) (hlt : n < 2 ^ 64) :
    IsClose (-52) 12 n (UnpackedFloat.ofNat Format.binary64 n) := by
  have hlog := log2_mul_two_pow hn (52 - n.log2)
  have hlong : 2 ^ 52 ≤ n * 2 ^ (52 - n.log2) := by
    apply (Nat.le_log2 (Nat.mul_ne_zero hn (Nat.two_pow_pos _).ne')).1
    omega
  have hshort : n.log2 < 64 := (Nat.log2_lt hn).2 hlt
  have hround := round_isClose .positive (m := n * 2 ^ (52 - n.log2))
    (e := -(52 - n.log2 : Nat)) hlong (by omega)
  have hvalue : ((n * 2 ^ (52 - n.log2) : Nat) : ℚ) * 2 ^ (-(52 - n.log2 : Nat) : Int) = n := by
    rw [Nat.cast_mul, Nat.cast_pow, zpow_neg, zpow_natCast, mul_assoc, Nat.cast_ofNat,
      mul_inv_cancel₀ (by positivity), mul_one]
  rw [ofNat_eq hn]
  rw [hvalue] at hround
  exact hround.mono (by omega) (by omega)

theorem floatOfNat_eq (n : Nat) :
    (Double.floatOfNat n).toModel
      = Float.Model.pack (UnpackedFloat.ofNat Format.binary64 (UInt64.ofNat n).toNat) :=
  rfl

/-- A whole number of a machine word is close to its float. -/
theorem floatOfNat_isClose {n : Nat} (hn : n ≠ 0) (hlt : n < 2 ^ 64) :
    IsClose (-52) 12 n (Double.floatOfNat n).toModel.unpack := by
  have hself : (UInt64.ofNat n).toNat = n := Nat.mod_eq_of_lt hlt
  rw [floatOfNat_eq, hself]
  exact (ofNat_isClose hn hlt).unpack_pack (by decide) (by decide)

/-- Whatever is left of a whole number in 64 bits is below their number
of powers of two. -/
theorem isBelow_floatOfNat (n : Nat) : IsBelow 64 (Double.floatOfNat n).toModel.unpack := by
  rw [floatOfNat_eq]
  rcases Nat.eq_zero_or_pos (UInt64.ofNat n).toNat with hzero | hpos
  · rw [hzero]
    exact trivial
  · have hclose := (ofNat_isClose (Nat.pos_iff_ne_zero.1 hpos) (UInt64.ofNat n).toNat_lt).unpack_pack
      (by decide) (by decide)
    exact hclose.isBelow (by decide)

-- ====================================================== powers of ten

/-- A power of ten as a machine float. -/
def tenPower (k : Nat) : Float := Float.ofScientific 1 false k

/-- The powers of ten that a double holds exactly come from a table, with
the same results as the others. -/
theorem tenPower_eq (k : Nat) : (tenPower k).toModel = Float.Model.ofScientific 1 k := by
  have htable : ∀ j < 23, (tenPower j).toModel = Float.Model.ofScientific 1 j := by
    decide +kernel
  by_cases hk : k < 23
  · exact htable k hk
  · have hslow : ¬(1 < 2 ^ 53 ∧ k ≤ 22) := by
      rintro ⟨-, hle⟩
      omega
    unfold tenPower Float.ofScientific
    rw [dif_neg hslow]
    rfl

theorem ofScientific_eq {k : Nat} (hk : k ≤ 308) :
    UnpackedFloat.ofScientific Format.binary64 1 k
      = roundWithAccuracy Format.binary64 .positive (2 ^ 53 * 10 ^ k) (-53) .exact := by
  have hlarge : ¬(k : Int) > 2 ^ 11 := by omega
  have hsmall : ¬(k : Int) < -((2 ^ 11 : Int) + (1 : Nat).log2) := by omega
  have hpos : (0 : Int) ≤ k := Int.natCast_nonneg k
  unfold UnpackedFloat.ofScientific
  rw [dif_neg (by decide), if_neg hlarge, if_neg hsmall, if_pos hpos]
  unfold UnpackedFloat.mul
  simp only
  rw [Nat.shiftLeft_eq, Nat.one_mul]
  rfl

/-- The largest power of ten in use does not overflow. -/
theorem largest_tenPower : (10 : ℚ) ^ 308 * (1 + 2 ^ (-53 : Int)) < 2 ^ (971 + 53 : Int) := by
  have hnat : 10 ^ 308 * (2 ^ 53 + 1) < 2 ^ 1024 * 2 ^ 53 := by decide +kernel
  have hcast : (10 : ℚ) ^ 308 * (2 ^ 53 + 1) < 2 ^ 1024 * 2 ^ 53 := by exact_mod_cast hnat
  have hsplit : (1 : ℚ) + 2 ^ (-53 : Int) = (2 ^ 53 + 1) / 2 ^ 53 := by norm_num
  rw [hsplit, ← mul_div_assoc, div_lt_iff₀ (by positivity)]
  exact hcast

/-- A power of ten within one step as a machine float. -/
theorem tenPower_isClose {k : Nat} (hk : k ≤ 308) :
    IsClose ((10 ^ k : Nat).log2 - 52) 971 (10 ^ k) (tenPower k).toModel.unpack := by
  have hne : (10 ^ k : Nat) ≠ 0 := (Nat.pow_pos (by decide)).ne'
  have hlog : (2 ^ 53 * 10 ^ k : Nat).log2 = (10 ^ k : Nat).log2 + 53 := by
    rw [Nat.mul_comm]
    exact log2_mul_two_pow hne 53
  have hlong : 2 ^ 52 ≤ 2 ^ 53 * 10 ^ k :=
    le_trans (by decide) (Nat.le_mul_of_pos_right _ (Nat.pos_of_ne_zero hne))
  have hround := round_isClose .positive (m := 2 ^ 53 * 10 ^ k) (e := -53) hlong (by omega)
  have hvalue : ((2 ^ 53 * 10 ^ k : Nat) : ℚ) * 2 ^ (-53 : Int) = 10 ^ k := by
    rw [zpow_neg]
    push_cast
    field_simp
  have hlarge : (10 : ℚ) ^ k * (1 + 2 ^ (-53 : Int)) < 2 ^ (971 + 53 : Int) := by
    calc (10 : ℚ) ^ k * (1 + 2 ^ (-53 : Int)) ≤ 10 ^ 308 * (1 + 2 ^ (-53 : Int)) :=
          mul_le_mul_of_nonneg_right (pow_le_pow_right₀ (by norm_num) hk) (by positivity)
      _ < 2 ^ (971 + 53 : Int) := largest_tenPower
  rw [hvalue, hlog] at hround
  rw [tenPower_eq]
  show IsClose _ _ _ (Float.Model.pack (UnpackedFloat.ofScientific Format.binary64 1 k)).unpack
  rw [ofScientific_eq hk]
  have hclose := hround.tighten hlarge
  exact (hclose.mono (by omega) (le_refl _)).unpack_pack (by omega) (le_refl _)

-- ============================================ products and quotients

/-- A product of finite floats is the exact product, rounded once. -/
theorem mul_finite (s s' : Sign) {m m' : Nat} (e e' : Int) (hm : 0 < m) (hm' : 0 < m') :
    UnpackedFloat.mul Format.binary64 (.finite s m e hm) (.finite s' m' e' hm')
      = roundWithAccuracy Format.binary64 (s * s') (m * m') (e + e') .exact :=
  rfl

/-- A product of two close numbers stays finite while the bounds on them
multiply to less than half a unit above the largest double. -/
theorem IsClose.isFinite_mul {l h l' h' : Int} {q r : ℚ} {f g : UnpackedFloat}
    (hf : IsClose l h q f) (hg : IsClose l' h' r g) (hlow : -1074 ≤ l + l')
    (hbound : q * (1 + 2 ^ (-53 : Int)) * (r * (1 + 2 ^ (-53 : Int)))
      < 2 ^ (1024 : Int) - 2 ^ (970 : Int)) :
    IsFinite (UnpackedFloat.mul Format.binary64 f g) := by
  cases f with
  | zero | infinity | notANumber => exact hf.elim
  | finite s m e hm =>
  cases g with
  | zero | infinity | notANumber => exact hg.elim
  | finite s' m' e' hm' =>
  obtain ⟨hlog, hlow1, -, hvalue1⟩ := hf
  obtain ⟨hlog', hlow2, -, hvalue2⟩ := hg
  have hself := Nat.log2_self_le (Nat.pos_iff_ne_zero.1 hm)
  have hself' := Nat.log2_self_le (Nat.pos_iff_ne_zero.1 hm')
  rw [hlog] at hself
  rw [hlog'] at hself'
  have hne : m * m' ≠ 0 := (Nat.mul_pos hm hm').ne'
  have hlong : 2 ^ 52 ≤ m * m' := le_trans hself (Nat.le_mul_of_pos_right m hm')
  have hbits : 52 ≤ (m * m').log2 := (Nat.le_log2 hne).2 hlong
  obtain ⟨m'', e'', h'', heq, hlog'', -, -, hvalue⟩ :=
    round_le_half (s * s') (e := e + e') hlong (by omega)
  have hproduct : ((m * m' : Nat) : ℚ) * 2 ^ (e + e') < 2 ^ (1024 : Int) - 2 ^ (970 : Int) := by
    calc ((m * m' : Nat) : ℚ) * 2 ^ (e + e') = m * 2 ^ e * (m' * 2 ^ e') := by
          rw [zpow_add₀ (by norm_num)]
          push_cast
          ring
      _ ≤ q * (1 + 2 ^ (-53 : Int)) * (r * (1 + 2 ^ (-53 : Int))) :=
          mul_le_mul hvalue1 hvalue2 (by positivity) (le_trans (by positivity) hvalue1)
      _ < 2 ^ (1024 : Int) - 2 ^ (970 : Int) := hbound
  -- the product is below the next power of two, so its last place is known
  have hunit : ((m * m').log2 : Int) + (e + e') - 53 ≤ 970 := by
    have hself'' : (2 : ℚ) ^ (m * m').log2 ≤ (m * m' : Nat) := by
      exact_mod_cast Nat.log2_self_le hne
    have hpower : (2 : ℚ) ^ ((m * m').log2 + (e + e')) < 2 ^ (1024 : Int) := by
      calc (2 : ℚ) ^ ((m * m').log2 + (e + e')) = 2 ^ (m * m').log2 * 2 ^ (e + e') := by
            rw [zpow_add₀ (by norm_num), zpow_natCast]
        _ ≤ (m * m' : Nat) * 2 ^ (e + e') := mul_le_mul_of_nonneg_right hself'' (by positivity)
        _ < 2 ^ (1024 : Int) := lt_of_lt_of_le hproduct (sub_le_self _ (by positivity))
    have := (zpow_lt_zpow_iff_right₀ (by norm_num)).1 hpower
    omega
  have hhalf : (2 : ℚ) ^ (((m * m').log2 : Int) + (e + e') - 53) ≤ 2 ^ (970 : Int) :=
    zpow_le_zpow_right₀ (by norm_num) hunit
  rw [mul_finite, heq]
  refine exponent_le_of_value_lt (x := 971) h'' hlog'' ?_
  show (m'' : ℚ) * 2 ^ e'' < 2 ^ (1024 : Int)
  linarith

/-- A quotient has the binary magnitude of the numbers' difference at most,
or is far below one. -/
theorem divCore_le {m m' : Nat} {e e' b : Int} (hm' : m' ≠ 0) (hb : -1074 ≤ b)
    (h : (m.log2 + e) - (m'.log2 + e') ≤ b) :
    ((divCore Format.binary64 m e m' e').1.log2 : Int)
      + (divCore Format.binary64 m e m' e').2.1 ≤ b := by
  obtain ⟨k, hk⟩ : ∃ k : Nat, e - e' - k = min (e - e') (Format.binary64.targetExponent
      (Float.Model.totalExponent m e - Float.Model.totalExponent m' e')) :=
    ⟨(e - e' - min (e - e') (Format.binary64.targetExponent
      (Float.Model.totalExponent m e - Float.Model.totalExponent m' e'))).toNat, by omega⟩
  -- the exponent of the quotient is either 53 bits below its magnitude or
  -- the smallest there is
  have htarget : Format.binary64.targetExponent
      (Float.Model.totalExponent m e - Float.Model.totalExponent m' e')
      = max ((m.log2 + e) - (m'.log2 + e') - 53) (-1074) := by
    unfold Format.targetExponent Float.Model.totalExponent
    rw [minExponent_eq, mantissaBits_eq]
    congr 1
    push_cast
    ring
  have hshift : (e - e' - min (e - e') (Format.binary64.targetExponent
      (Float.Model.totalExponent m e - Float.Model.totalExponent m' e'))).toNat = k := by omega
  have hform : divCore Format.binary64 m e m' e'
      = (m * 2 ^ k / m', e - e' - k, accuracyOfFraction (m * 2 ^ k % m') m') := by
    unfold divCore
    simp only
    rw [hshift, ← hk, Nat.shiftLeft_eq]
  rw [hform]
  simp only
  by_cases hzero : m * 2 ^ k / m' = 0
  · rw [hzero, Nat.log2_zero]
    rw [htarget] at hk
    omega
  · -- comparing the powers of two on both sides of the division
    have hle : 2 ^ ((m * 2 ^ k / m').log2 + m'.log2) < 2 ^ (m.log2 + 1 + k) := by
      calc 2 ^ ((m * 2 ^ k / m').log2 + m'.log2)
          = 2 ^ (m * 2 ^ k / m').log2 * 2 ^ m'.log2 := Nat.pow_add _ _ _
        _ ≤ m * 2 ^ k / m' * m' :=
            Nat.mul_le_mul (Nat.log2_self_le hzero) (Nat.log2_self_le hm')
        _ ≤ m * 2 ^ k := Nat.div_mul_le_self _ _
        _ < 2 ^ (m.log2 + 1) * 2 ^ k :=
            Nat.mul_lt_mul_of_pos_right Nat.lt_log2_self (Nat.two_pow_pos k)
        _ = 2 ^ (m.log2 + 1 + k) := (Nat.pow_add _ _ _).symm
    have := (Nat.pow_lt_pow_iff_right (by decide)).1 hle
    omega

/-- A quotient by a power of ten above one does not grow. -/
theorem isBelow_quotient {x : Float} {k : Nat} {b : Int} (hb : -1023 ≤ b) (hb' : b ≤ 971)
    (hk : 0 < k) (hk' : k ≤ 308) (hx : IsBelow b x.toModel.unpack) :
    IsBelow b (x / tenPower k).toModel.unpack := by
  show IsBelow b (Float.Model.pack (UnpackedFloat.div Format.binary64 x.toModel.unpack
    (tenPower k).toModel.unpack)).unpack
  apply isBelow_unpack_pack hb hb'
  have hten := tenPower_isClose hk'
  -- Ten is above eight, so the division takes more off the exponent than
  -- rounding adds to it.
  have hlog : 3 ≤ (10 ^ k : Nat).log2 := by
    apply (Nat.le_log2 (Nat.pow_pos (by decide)).ne').2
    calc 2 ^ 3 ≤ 10 ^ 1 := by decide
      _ ≤ 10 ^ k := Nat.pow_le_pow_right (by decide) hk
  cases hunpack : (tenPower k).toModel.unpack with
  | zero | infinity | notANumber =>
    rw [hunpack] at hten
    exact hten.elim
  | finite s' m' e' hm' =>
  rw [hunpack] at hten
  obtain ⟨hlog', hlow, -, -⟩ := hten
  cases hself : x.toModel.unpack with
  | zero s => trivial
  | infinity | notANumber =>
    rw [hself] at hx
    exact hx.elim
  | finite s m e hm =>
  rw [hself] at hx
  have hle : (m.log2 : Int) + e ≤ b := hx
  have hless : (m.log2 + e) - (m'.log2 + e') ≤ b - 1 := by omega
  have hcore := divCore_le hm'.ne' (by omega) hless
  have hround := isBelow_round (by omega) (s / s') (divCore Format.binary64 m e m' e').2.2 hcore
  exact hround.mono (by omega)

end EventAnalytics.Rounding
