import Pushdown.Number.Double

/-!
The shortest decimal text of a double. Decimal grids are tried from coarse to fine; the first one
with a point among the reals that round to the value gives the digits, and of two such points the
nearer is taken, on a tie the even one.
-/
namespace Pushdown

/-- The reals that round to a positive value, as integers on one scale: the value, the distance to
either end, and whether the ends belong. -/
structure RoundingInterval where
  value : Nat
  below : Nat
  above : Nat
  closed : Bool

namespace RoundingInterval

def has (i : RoundingInterval) (n : Nat) : Bool :=
  if i.closed then decide (i.value ≤ n + i.below ∧ n ≤ i.value + i.above)
  else decide (i.value < n + i.below ∧ n < i.value + i.above)

/-- The point of the grid of the given step that stands for the value, as a multiple of the
step. -/
def gridPoint? (i : RoundingInterval) (step : Nat) : Option Nat :=
  let lower := i.value / step
  let upper := lower + 1
  match i.has (lower * step), i.has (upper * step) with
  | true, true =>
    let down := i.value - lower * step
    let up := upper * step - i.value
    some (if down < up ∨ (down = up ∧ lower % 2 = 0) then lower else upper)
  | true, false => some lower
  | false, true => some upper
  | false, false => none

/-- The coarsest grid with a point in the interval, among those with steps of `unit` times a power
of ten below `unit * 10 ^ fuel`. -/
def coarsest (i : RoundingInterval) (unit : Nat) : Nat → Nat × Nat
  | 0 => (i.value / unit, 0)
  | k + 1 =>
    match i.gridPoint? (unit * Nat.pow 10 k) with
    | some n => (n, k)
    | none => coarsest i unit k

end RoundingInterval

namespace FiniteDouble

/-- One unit of 2⁻¹⁰⁷⁴ is `4 * 10 ^ 324` on the common scale, so the half and quarter gaps to the
neighbours are whole. -/
def roundingInterval (x : FiniteDouble) : RoundingInterval :=
  let unit := Nat.pow 2 x.shift * Nat.pow 10 324
  { value := 4 * x.significand * unit
    below := if x.significand = Nat.pow 2 52 ∧ x.shift ≠ 0 then unit else 2 * unit
    above := 2 * unit
    closed := x.significand % 2 == 0 }

/-- The digits and the power of ten they are multiplied by. -/
def shortest (x : FiniteDouble) : Nat × Int :=
  let (n, k) := x.roundingInterval.coarsest (4 * unitsPerOne) 634
  (n, k - 324)

end FiniteDouble

/-- Decimal digits with a point after the first `point` of them, positional when the exponent of
the leading digit is from -4 to 15. A positional number has a digit on either side of the point,
an exponent a sign and two digits at least. -/
def decimalText (digits : List Char) (point : Int) : List Char :=
  let exponent := point - 1
  if -4 ≤ exponent ∧ exponent < 16 then
    if point ≤ 0 then '0' :: '.' :: List.replicate (-point).toNat '0' ++ digits
    else if digits.length ≤ point.toNat then
      digits ++ List.replicate (point.toNat - digits.length) '0' ++ ['.', '0']
    else digits.take point.toNat ++ '.' :: digits.drop point.toNat
  else
    let tail := digits.drop 1
    let power := Nat.toDigits 10 exponent.natAbs
    digits.take 1 ++ (if tail.isEmpty then [] else '.' :: tail)
      ++ 'e' :: (if exponent < 0 then '-' else '+')
      :: List.replicate (2 - power.length) '0' ++ power

def FiniteDouble.text (x : FiniteDouble) : String :=
  let magnitude :=
    if x.significand = 0 then ['0', '.', '0']
    else
      let (n, exponent) := x.shortest
      let digits := Nat.toDigits 10 n
      decimalText digits (digits.length + exponent)
  String.ofList (if x.negative then '-' :: magnitude else magnitude)

def Double.text : Double → String
  | .nan => "nan"
  | .infinity negative => if negative then "-inf" else "inf"
  | .finite x => x.text

end Pushdown
