/-
Double-precision numbers, by their 64 bits.

A finite double is a sign and a whole number times a power of two. The
bits alone decide equality, so a negative zero differs from a positive
one. A decimal numeral becomes a double in two rounded steps: its
significand is converted, and the result is multiplied or divided by a
power of ten. Two roundings may miss the nearest double by one unit in the
last place.
-/

namespace EventAnalytics

structure Double where
  bits : UInt64
  deriving DecidableEq, Repr

namespace Double

/-- The number held by a machine float. -/
def ofFloat (f : Float) : Double := ⟨f.toBits⟩

/-- The machine float that holds the number. -/
def toFloat (d : Double) : Float := Float.ofBits d.bits

/-- Whether the sign bit is set. -/
def isNegative (d : Double) : Bool := 0x8000000000000000 ≤ d.bits.toNat

/-- The eleven bits of the exponent. -/
def exponentField (d : Double) : Nat := d.bits.toNat / 0x10000000000000 % 0x800

/-- The fifty-two bits of the fraction. -/
def fractionField (d : Double) : Nat := d.bits.toNat % 0x10000000000000

/-- The whole number that the power of two multiplies. -/
def significand (d : Double) : Nat :=
  if d.exponentField = 0 then d.fractionField
  else d.fractionField + 0x10000000000000

/-- The exponent of the power of two. -/
def exponent (d : Double) : Int :=
  if d.exponentField = 0 then -1074 else d.exponentField - 1075

/-- The nearest machine float to a whole number below 2^64. -/
def floatOfNat (n : Nat) : Float := (UInt64.ofNat n).toFloat

/-- The largest power of ten that is used in one step. -/
def maxStep : Nat := 308

/-- A machine float times a power of ten; nothing when the result is too
large. A power too small for one step is applied in several, and the
number is done with as soon as it is zero. -/
def scaled? (f : Float) (e : Int) : Option Float :=
  if 0 ≤ e then
    if e ≤ maxStep then
      let g := f * Float.ofScientific 1 false e.toNat
      if g.isInf then none else some g
    else if f == 0.0 then some f
    else none
  else if _h : -e ≤ maxStep then some (f / Float.ofScientific 1 false (-e).toNat)
  else if f == 0.0 then some f
  else scaled? (f / Float.ofScientific 1 false maxStep) (e + maxStep)
termination_by (-e).toNat
decreasing_by
  simp only [maxStep] at *
  omega

/-- The double for a sign, a significand below 2^64 and a power of ten. -/
def ofScientific? (negative : Bool) (significand : Nat) (e : Int) : Option Double :=
  (scaled? (floatOfNat significand) e).map fun f =>
    ofFloat (if negative then -f else f)

end Double

end EventAnalytics
