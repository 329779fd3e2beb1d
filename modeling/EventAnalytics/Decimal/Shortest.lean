/-
The shortest decimal that reads back as a double.

A double stands for all reals that round to it: an interval around it
whose ends belong to it when its significand is even. Among the decimals
in the interval, those with the fewest digits are wanted, and of these the
one nearest to the double. Multiples of a power of ten are as close to a
point as its two neighbours among them, so it is enough to try, for one
digit, two digits and so on up to seventeen, the neighbours on that grid.
Everything is done in exact whole numbers.

How the digits are then set is a format of its own: positional while the
leading digit stands between the fifth place after the point and the
fifteenth power of ten, with an exponent otherwise; a whole number keeps
one zero after its point.
-/
import EventAnalytics.Decimal.Double
import EventAnalytics.Text.Numeral

namespace EventAnalytics

open Text (numeral)

/-- A decimal: a whole number times a power of ten. -/
structure Decimal where
  digits : Nat
  exponent : Int
  deriving DecidableEq, Repr

namespace Decimal

/-- The same decimal without zeros at the end of its digits. -/
def stripped (d : Decimal) : Decimal :=
  if h : d.digits ≠ 0 ∧ d.digits % 10 = 0 then
    stripped ⟨d.digits / 10, d.exponent + 1⟩
  else d
termination_by d.digits
decreasing_by omega

/-- A fraction `over / under`, with the interval around it on the same
scale: from `low * scale` to `high * scale`. -/
structure Target where
  low : Nat
  middle : Nat
  high : Nat
  closed : Bool
  exponent : Int

/-- The double's value and the ends of its interval, as whole multiples of
a quarter of its last place. The gap below a power of two is half as
wide. -/
def Target.ofDouble (d : Double) : Target :=
  let m := d.significand
  let narrow := d.fractionField = 0 ∧ 1 < d.exponentField
  { low := 4 * m - (if narrow then 1 else 2)
    middle := 4 * m
    high := 4 * m + 2
    closed := m % 2 = 0
    exponent := d.exponent - 2 }

/-- What a multiple of the target's unit is multiplied by to be compared
with a multiple of `10 ^ k`. -/
def Target.unit (t : Target) (k : Int) : Nat :=
  Nat.pow 2 t.exponent.toNat * Nat.pow 10 (-k).toNat

/-- What a multiple of `10 ^ k` is multiplied by to be compared. -/
def Target.step (t : Target) (k : Int) : Nat :=
  Nat.pow 2 (-t.exponent).toNat * Nat.pow 10 k.toNat

/-- Whether `n * 10 ^ k` lies in the interval. -/
def Target.holds (t : Target) (n : Nat) (k : Int) : Bool :=
  let x := n * t.step k
  let u := t.unit k
  if t.closed then t.low * u ≤ x && x ≤ t.high * u
  else t.low * u < x && x < t.high * u

/-- The power of ten of the leading digit. -/
def Target.leading (t : Target) : Int :=
  let k : Int := -350
  ((numeral (t.middle * t.unit k / t.step k)).length : Int) - 1 + k

/-- The neighbour on the grid of `10 ^ k` that lies in the interval; of
two, the nearer one. -/
def Target.onGrid? (t : Target) (k : Int) : Option Decimal :=
  let x := t.middle * t.unit k
  let s := t.step k
  let below := x / s
  let past := x % s
  match t.holds below k, t.holds (below + 1) k with
  | true, true =>
    if 2 * past < s ∨ (2 * past = s ∧ below % 2 = 0) then some ⟨below, k⟩
    else some ⟨below + 1, k⟩
  | true, false => some ⟨below, k⟩
  | false, true => some ⟨below + 1, k⟩
  | false, false => none

/-- The shortest decimal in the interval of a positive double. -/
def shortest (d : Double) : Decimal :=
  let t := Target.ofDouble d
  let found := (List.range 17).findSome? fun (n : Nat) => t.onGrid? (t.leading - n)
  (found.getD ⟨0, 0⟩).stripped

/-- The decimal in positional notation; a whole number gets `.0`. -/
def positional (digits : List Char) (lead : Int) : List Char :=
  if lead < 0 then '0' :: '.' :: List.replicate (-lead - 1).toNat '0' ++ digits
  else
    let whole := lead.toNat + 1
    if digits.length ≤ whole then
      digits ++ List.replicate (whole - digits.length) '0' ++ ['.', '0']
    else digits.take whole ++ '.' :: digits.drop whole

/-- The decimal with an exponent of which the sign is always written. -/
def scientific (digits : List Char) (lead : Int) : List Char :=
  let fraction := match digits.drop 1 with
    | [] => []
    | r => '.' :: r
  digits.take 1 ++ fraction ++ 'e' :: (if lead < 0 then '-' else '+') :: numeral lead.natAbs

def text (d : Decimal) : List Char :=
  let ds := numeral d.digits
  let lead := d.exponent + ds.length - 1
  if -5 ≤ lead ∧ lead ≤ 15 then positional ds lead else scientific ds lead

end Decimal

def Double.text (d : Double) : List Char :=
  let unsigned := if d.significand = 0 then "0.0".toList else (Decimal.shortest d).text
  if d.isNegative then '-' :: unsigned else unsigned

end EventAnalytics
