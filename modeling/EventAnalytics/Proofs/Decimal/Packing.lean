/-
What survives when a machine float is packed into its bits.

Packing keeps a number that is not too large: a normal one unchanged, and
one of small magnitude small (`unpack_pack_normal`, `isBelow_unpack_pack`).
Whether a float is finite can be seen on its bits, by the exponent not
being all ones (`isFinite_iff`), and that is what a double shows of it.
-/
import EventAnalytics.Decimal.Double
import EventAnalytics.Proofs.Decimal.Rounding

namespace EventAnalytics.Rounding

open Float.Model (UnpackedFloat Format)
open Float.Model.UnpackedFloat

variable {f : UnpackedFloat} {b : Int}

/-- Zero, or finite and with an exponent that has a place in the bits. -/
def IsFinite : UnpackedFloat → Prop
  | .zero _ => True
  | .finite _ _ e _ => e ≤ 971
  | _ => False

theorem IsBelow.isFinite (hb : b ≤ 971) (h : IsBelow b f) : IsFinite f := by
  cases f with
  | zero => trivial
  | finite s m e hm =>
    have hle : (m.log2 : Int) + e ≤ b := h
    show e ≤ 971
    omega
  | infinity | notANumber => exact h

-- ============================================================ packing

/-- An exponent that has a place in the bits is not taken for infinity. -/
theorem exponent_fits {e : Int} (he : e ≤ 971) :
    ¬2 ^ Format.binary64.exponentBits
      ≤ (e + Format.binary64.exponentBias + Format.binary64.mantissaBitsWithoutImplicit).toNat
        + 1 := by
  show ¬2 ^ 11 ≤ (e + (1023 : Nat) + (52 : Nat)).toNat + 1
  omega

theorem pack_normal (s : Sign) {m : Nat} {e : Int} (h : 0 < m) (hm : m.log2 = 52) (he : e ≤ 971) :
    UnpackedFloat.pack Format.binary64 (.finite s m e h)
      = packComponents Format.binary64 s (BitVec.ofNat 11 (e + 1075).toNat) (BitVec.ofNat 52 m) := by
  have hbits : m.log2 + 1 = Format.binary64.mantissaBits := by
    rw [mantissaBits_eq, hm]
  have hbias : (e + Format.binary64.exponentBias + Format.binary64.mantissaBitsWithoutImplicit).toNat
      = (e + 1075).toNat := by
    show (e + (1023 : Nat) + (52 : Nat)).toNat = (e + 1075).toNat
    omega
  unfold UnpackedFloat.pack
  dsimp only
  rw [if_neg (exponent_fits he), if_pos hbits, hbias]

theorem pack_subnormal (s : Sign) {m : Nat} {e : Int} (h : 0 < m) (hm : m.log2 ≠ 52)
    (he : e ≤ 971) :
    UnpackedFloat.pack Format.binary64 (.finite s m e h)
      = packComponents Format.binary64 s 0#11 (BitVec.ofNat 52 m) := by
  have hbits : ¬m.log2 + 1 = Format.binary64.mantissaBits := by
    rw [mantissaBits_eq]
    omega
  unfold UnpackedFloat.pack
  dsimp only
  rw [if_neg (exponent_fits he), if_neg hbits]

/-- Bits with a nonzero exponent hold the bits of the mantissa after the
first one. -/
theorem unpack_normal (s : Sign) {x : BitVec 11} (m : BitVec 52) (hx : x ≠ -1#11) (hx' : x ≠ 0#11) :
    ∃ s' h, UnpackedFloat.unpack Format.binary64 (packComponents Format.binary64 s x m)
      = .finite s' (2 ^ 52 + m.toNat) (x.toNat - 1075) h := by
  have hm : (1#1 ++ m).toNat = 2 ^ 52 + m.toNat := by
    rw [BitVec.toNat_append, ← Nat.shiftLeft_add_eq_or_of_lt m.isLt]
    rfl
  have hexponent : unpackExponent (packComponents Format.binary64 s x m) = x :=
    unpackExponent_packComponents
  have hmantissa : unpackMantissa (packComponents Format.binary64 s x m) = m :=
    unpackMantissa_packComponents
  generalize packComponents Format.binary64 s x m = b at hexponent hmantissa ⊢
  rw [← hexponent] at hx hx' ⊢
  rw [← hmantissa] at hm ⊢
  unfold UnpackedFloat.unpack
  dsimp only
  rw [if_neg hx, if_neg hx']
  refine ⟨Sign.ofBitVec (unpackSign b), Nat.add_pos_left (Nat.two_pow_pos 52) _, ?_⟩
  rw [UnpackedFloat.finite.injEq]
  refine ⟨rfl, hm, ?_⟩
  rw [hexponent]
  show (x.toNat : Int) - ((1023 : Nat) + (52 : Nat)) = x.toNat - 1075
  omega

/-- Bits with a zero exponent hold zero or a number far below one. -/
theorem isBelow_subnormal (s : Sign) (m : BitVec 52) :
    IsBelow (-1023) (UnpackedFloat.unpack Format.binary64
      (packComponents Format.binary64 s 0#11 m)) := by
  have hexponent : unpackExponent (packComponents Format.binary64 s 0#11 m) = 0#11 :=
    unpackExponent_packComponents
  have hmantissa : unpackMantissa (packComponents Format.binary64 s 0#11 m) = m :=
    unpackMantissa_packComponents
  generalize packComponents Format.binary64 s 0#11 m = b at hexponent hmantissa ⊢
  unfold UnpackedFloat.unpack
  dsimp only
  rw [if_neg (by rw [hexponent]; decide), if_pos hexponent]
  by_cases hm : m = 0#52
  · rw [dif_pos (hmantissa.trans hm)]
    trivial
  · rw [dif_neg (fun hzero => hm (hmantissa.symm.trans hzero))]
    have hlog : m.toNat.log2 < 52 := by
      refine (Nat.log2_lt ?_).2 m.isLt
      intro hzero
      exact hm (BitVec.eq_of_toNat_eq hzero)
    show ((unpackMantissa b).toNat.log2 : Int)
      + ((unpackExponent b).toNat - ((1023 : Nat) + (52 : Nat)) + 1) ≤ -1023
    rw [hmantissa, hexponent]
    show (m.toNat.log2 : Int) + (((0 : Nat) : Int) - ((1023 : Nat) + (52 : Nat)) + 1) ≤ -1023
    omega

-- ================================================ packed and unpacked

/-- A number of 53 bits that is not too large keeps its value. -/
theorem unpack_pack_normal (s : Sign) {m : Nat} {e : Int} (h : 0 < m) (hm : m.log2 = 52)
    (he : -1074 ≤ e) (he' : e ≤ 971) :
    ∃ s', (Float.Model.pack (.finite s m e h)).unpack = .finite s' m e h := by
  obtain ⟨hlow, hhigh⟩ := two_pow_log2_le (Nat.pos_iff_ne_zero.1 h)
  rw [hm] at hlow hhigh
  -- The biased exponent is neither of the two that mean something else.
  have hx : (BitVec.ofNat 11 (e + 1075).toNat).toNat = (e + 1075).toNat := by
    rw [BitVec.toNat_ofNat]
    exact Nat.mod_eq_of_lt (by omega)
  have hones : BitVec.ofNat 11 (e + 1075).toNat ≠ -1#11 := by
    intro heq
    rw [heq] at hx
    have : (-1#11).toNat = 2047 := rfl
    omega
  have hzero : BitVec.ofNat 11 (e + 1075).toNat ≠ 0#11 := by
    intro heq
    rw [heq] at hx
    have : (0#11).toNat = 0 := rfl
    omega
  obtain ⟨s', h', heq⟩ := unpack_normal s (BitVec.ofNat 52 m) hones hzero
  have hunpack : (Float.Model.pack (.finite s m e h)).unpack
      = UnpackedFloat.unpack Format.binary64 (UnpackedFloat.pack Format.binary64 (.finite s m e h)) :=
    rfl
  refine ⟨s', ?_⟩
  rw [hunpack, pack_normal s h hm he', heq, UnpackedFloat.finite.injEq]
  refine ⟨rfl, ?_, ?_⟩
  · rw [BitVec.toNat_ofNat]
    omega
  · rw [hx]
    omega

/-- Packing keeps a number below a power of two, as long as that is
neither tiny nor too large. -/
theorem isBelow_unpack_pack (hb : -1023 ≤ b) (hb' : b ≤ 971) (h : IsBelow b f) :
    IsBelow b (Float.Model.pack f).unpack := by
  cases f with
  | zero s => cases s <;> exact trivial
  | infinity | notANumber => exact h.elim
  | finite s m e hm =>
    have hle : (m.log2 : Int) + e ≤ b := h
    have hsubnormal (t : Sign) (v : BitVec 52) : IsBelow b (UnpackedFloat.unpack Format.binary64
        (packComponents Format.binary64 t 0#11 v)) :=
      (isBelow_subnormal t v).mono hb
    by_cases hlog : m.log2 = 52
    · by_cases he : -1074 ≤ e
      · obtain ⟨s', heq⟩ := unpack_pack_normal s hm hlog he (by omega)
        rw [heq]
        exact hle
      · have hzero : (e + 1075).toNat = 0 := by omega
        show IsBelow b (UnpackedFloat.unpack Format.binary64
          (UnpackedFloat.pack Format.binary64 (.finite s m e hm)))
        rw [pack_normal s hm hlog (by omega), hzero]
        exact hsubnormal s _
    · show IsBelow b (UnpackedFloat.unpack Format.binary64
        (UnpackedFloat.pack Format.binary64 (.finite s m e hm)))
      rw [pack_subnormal s hm hlog (by omega)]
      exact hsubnormal s _

-- ==================================================== finite and not

/-- A machine float is finite unless its exponent is all ones. -/
theorem isFinite_iff (v : Float.Model) :
    IsFinite v.unpack ↔ @unpackExponent Format.binary64 v.toBits.toBitVec ≠ -1#11 := by
  show IsFinite (UnpackedFloat.unpack Format.binary64 v.toBits.toBitVec) ↔ _
  unfold UnpackedFloat.unpack
  dsimp only
  generalize @unpackExponent Format.binary64 v.toBits.toBitVec = x
  by_cases hones : x = -1#11
  · rw [if_pos hones]
    refine iff_of_false ?_ (fun h => h hones)
    split <;> exact id
  · have hlt : x.toNat < 2047 := by
      have hne : x.toNat ≠ 2047 := fun h => hones (BitVec.eq_of_toNat_eq h)
      have hx : x.toNat < 2 ^ 11 := x.isLt
      omega
    rw [if_neg hones]
    refine iff_of_true ?_ hones
    by_cases hzero : x = 0#11
    · rw [if_pos hzero]
      by_cases hmantissa : @unpackMantissa Format.binary64 v.toBits.toBitVec = 0#52
      · rw [dif_pos hmantissa]
        trivial
      · rw [dif_neg hmantissa]
        show (x.toNat : Int) - ((1023 : Nat) + (52 : Nat)) + 1 ≤ 971
        rw [hzero]
        decide
    · rw [if_neg hzero]
      show (x.toNat : Int) - ((1023 : Nat) + (52 : Nat)) ≤ 971
      omega

/-- Packing keeps a number finite. -/
theorem isFinite_unpack_pack (h : IsFinite f) : IsFinite (Float.Model.pack f).unpack := by
  rw [isFinite_iff]
  show @unpackExponent Format.binary64 (UnpackedFloat.pack Format.binary64 f) ≠ -1#11
  cases f with
  | infinity | notANumber => exact h.elim
  | zero s =>
    show unpackExponent (packComponents Format.binary64 s 0#11 0#52) ≠ -1#11
    rw [unpackExponent_packComponents]
    decide
  | finite s m e hm =>
    have he : e ≤ 971 := h
    by_cases hlog : m.log2 = 52
    · rw [pack_normal s hm hlog he, unpackExponent_packComponents]
      intro hones
      have hnat : (e + 1075).toNat % 2 ^ 11 = 2047 := by
        rw [← BitVec.toNat_ofNat, hones]
        rfl
      omega
    · rw [pack_subnormal s hm hlog he, unpackExponent_packComponents]
      decide

/-- A number is packed as infinity only when its exponent has no place. -/
theorem isFinite_of_isInf_eq_false (s : Sign) {m : Nat} {e : Int} (h : 0 < m)
    (hinf : (Float.Model.pack (.finite s m e h)).unpack.isInf = false) :
    IsFinite (Float.Model.pack (.finite s m e h)).unpack := by
  by_cases he : e ≤ 971
  · exact isFinite_unpack_pack he
  · exfalso
    have hlarge : 2 ^ Format.binary64.exponentBits
        ≤ (e + Format.binary64.exponentBias + Format.binary64.mantissaBitsWithoutImplicit).toNat
          + 1 := by
      show 2 ^ 11 ≤ (e + (1023 : Nat) + (52 : Nat)).toNat + 1
      omega
    have hpack : UnpackedFloat.pack Format.binary64 (.finite s m e h)
        = packedInfinity Format.binary64 s := by
      unfold UnpackedFloat.pack
      dsimp only
      rw [if_pos hlarge]
    have hunpack : (Float.Model.pack (.finite s m e h)).unpack
        = UnpackedFloat.unpack Format.binary64 (packedInfinity Format.binary64 s) := by
      rw [← hpack]
      rfl
    rw [hunpack] at hinf
    cases s <;> exact absurd hinf (by decide)

theorem isFinite_neg {x : Float} (h : IsFinite x.toModel.unpack) :
    IsFinite (-x).toModel.unpack := by
  show IsFinite (Float.Model.pack x.toModel.unpack.neg).unpack
  apply isFinite_unpack_pack
  cases hx : x.toModel.unpack with
  | zero s => trivial
  | finite s m e hm =>
    rw [hx] at h
    exact h
  | infinity | notANumber =>
    rw [hx] at h
    exact h.elim

/-- The exponent that a double shows tells whether a machine float is
finite. -/
theorem exponentField_ofFloat (x : Float) :
    (Double.ofFloat x).exponentField < 2047 ↔ IsFinite x.toModel.unpack := by
  have hfield : (Double.ofFloat x).exponentField
      = (@unpackExponent Format.binary64 x.toModel.toBits.toBitVec).toNat := by
    show x.toModel.toBits.toBitVec.toNat / 2 ^ 52 % 2 ^ 11
      = (x.toModel.toBits.toBitVec.extractLsb 62 52).toNat
    rw [BitVec.extractLsb_toNat, Nat.shiftRight_eq_div_pow]
  rw [isFinite_iff, hfield]
  generalize @unpackExponent Format.binary64 x.toModel.toBits.toBitVec = v
  have hlt : v.toNat < 2 ^ 11 := v.isLt
  constructor
  · rintro h rfl
    exact absurd h (by decide)
  · intro h
    have hne : v.toNat ≠ 2047 := fun heq => h (BitVec.eq_of_toNat_eq heq)
    omega

end EventAnalytics.Rounding
