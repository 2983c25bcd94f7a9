/-!
Double precision numbers as exact values. A finite one is a whole number of units of 2⁻¹⁰⁷⁴, so
rounding and comparison are integer arithmetic. Main statement: rounding to nearest, ties to
even, always lands on a canonical significand.
-/
namespace Pushdown

/-- The finite doubles: `significand * 2 ^ shift` units, signed. Each value has one form, zero
alone has two. -/
structure FiniteDouble where
  negative : Bool
  significand : Nat
  shift : Nat
  significand_lt : significand < Nat.pow 2 53
  shift_le : shift ≤ 2045
  normal : shift = 0 ∨ Nat.pow 2 52 ≤ significand
  deriving DecidableEq

inductive Double
  | nan
  | infinity (negative : Bool)
  | finite (x : FiniteDouble)
  deriving DecidableEq

namespace FiniteDouble

/-- The exact value, in units of 2⁻¹⁰⁷⁴. -/
def units (x : FiniteDouble) : Int :=
  let magnitude : Int := x.significand * Nat.pow 2 x.shift
  if x.negative then -magnitude else magnitude

def zero (negative : Bool) : FiniteDouble := ⟨negative, 0, 0, by decide, by decide, .inl rfl⟩

end FiniteDouble

/-- How many units make one. -/
def unitsPerOne : Nat := Nat.pow 2 1074

/-- The quotient rounded to the nearest whole number, a tie to the even one. -/
def roundHalfEven (num den : Nat) : Nat :=
  let q := num / den
  let r := num % den
  if den < 2 * r ∨ (2 * r = den ∧ q % 2 = 1) then q + 1 else q

theorem le_roundHalfEven (num den : Nat) : num / den ≤ roundHalfEven num den := by
  unfold roundHalfEven; dsimp only; split <;> omega

theorem roundHalfEven_le (num den : Nat) : roundHalfEven num den ≤ num / den + 1 := by
  unfold roundHalfEven; dsimp only; split <;> omega

/-- The number of binary digits. -/
def bitLength (n : Nat) : Nat := if n = 0 then 0 else n.log2 + 1

theorem lt_two_pow_bitLength (n : Nat) : n < Nat.pow 2 (bitLength n) := by
  unfold bitLength
  split
  · rename_i hn
    subst hn
    decide
  · exact Nat.lt_log2_self

theorem two_pow_le_of_bitLength {n k : Nat} (h : bitLength n = k + 1) : Nat.pow 2 k ≤ n := by
  unfold bitLength at h
  split at h
  · omega
  · rename_i hn
    have : n.log2 = k := by omega
    exact this ▸ Nat.log2_self_le hn

namespace Double

/-- By how many places the significand of `num / den` units is shifted. -/
def roundShift (num den : Nat) : Nat := bitLength (num / den) - 53

def roundSignificand (num den : Nat) : Nat :=
  roundHalfEven num (den * Nat.pow 2 (roundShift num den))

theorem roundSignificand_le (num den : Nat) : roundSignificand num den ≤ Nat.pow 2 53 := by
  refine Nat.le_trans (roundHalfEven_le ..) ?_
  have hq := lt_two_pow_bitLength (num / den)
  have : num / (den * Nat.pow 2 (roundShift num den)) < Nat.pow 2 53 := by
    simp only [Nat.pow_eq] at hq ⊢
    rw [← Nat.div_div_eq_div_mul, Nat.div_lt_iff_lt_mul (Nat.two_pow_pos _), ← Nat.pow_add]
    exact Nat.lt_of_lt_of_le hq (Nat.pow_le_pow_right (by decide) (by unfold roundShift; omega))
  exact this

theorem roundSignificand_normal {num den : Nat} (h : roundShift num den ≠ 0) :
    Nat.pow 2 52 ≤ roundSignificand num den := by
  refine Nat.le_trans ?_ (le_roundHalfEven ..)
  simp only [Nat.pow_eq]
  rw [← Nat.div_div_eq_div_mul, Nat.le_div_iff_mul_le (Nat.two_pow_pos _), ← Nat.pow_add]
  apply two_pow_le_of_bitLength
  unfold roundShift at h ⊢
  omega

/-- The double nearest to `num / den` units, a tie to the even significand; past the largest
finite one, an infinity. -/
def ofUnitRatio (negative : Bool) (num den : Nat) : Double :=
  let shift := roundShift num den
  let significand := roundSignificand num den
  if h : significand < Nat.pow 2 53 then
    if hs : shift ≤ 2045 then
      .finite ⟨negative, significand, shift, h, hs,
        (Decidable.em (shift = 0)).imp id roundSignificand_normal⟩
    else .infinity negative
  else
    if hs : shift + 1 ≤ 2045 then
      .finite ⟨negative, Nat.pow 2 52, shift + 1, by decide, hs, .inr (Nat.le_refl _)⟩
    else .infinity negative

/-- The double nearest to `digits * 10 ^ exponent`. Far from the finite range the answer is known
before the power is computed. -/
def ofDecimal (negative : Bool) (digits : Nat) (exponent : Int) : Double :=
  if digits = 0 then .finite (.zero negative)
  else
    let point := (Nat.toDigits 10 digits).length + exponent
    if 310 < point then .infinity negative
    else if point < -330 then .finite (.zero negative)
    else if 0 ≤ exponent then
      ofUnitRatio negative (digits * Nat.pow 10 exponent.toNat * unitsPerOne) 1
    else ofUnitRatio negative (digits * unitsPerOne) (Nat.pow 10 (-exponent).toNat)

def finite? : Double → Option FiniteDouble
  | .finite x => some x
  | .nan | .infinity _ => none

/-- The double nearest to an integer, unless that is an infinity. -/
def ofInt? (n : Int) : Option FiniteDouble :=
  (ofUnitRatio (decide (n < 0)) (n.natAbs * unitsPerOne) 1).finite?

end Double

/-- The number line with both ends, and the one value that is not on it. -/
inductive Number
  | notANumber
  | minusInfinity
  | units (n : Int)
  | plusInfinity
  deriving DecidableEq, Repr

namespace Number

def ofInt (n : Int) : Number := .units (n * unitsPerOne)

/-- Order by value; nothing is below or above what is not a number. -/
def lt : Number → Number → Bool
  | .notANumber, _ | _, .notANumber => false
  | .units a, .units b => decide (a < b)
  | .minusInfinity, .minusInfinity | .plusInfinity, .plusInfinity => false
  | .minusInfinity, _ | _, .plusInfinity => true
  | .plusInfinity, _ | _, .minusInfinity => false

/-- Equality by value; what is not a number differs even from itself. -/
def eq : Number → Number → Bool
  | .units a, .units b => decide (a = b)
  | .minusInfinity, .minusInfinity | .plusInfinity, .plusInfinity => true
  | _, _ => false

end Number

def Double.number : Double → Number
  | .nan => .notANumber
  | .infinity negative => if negative then .minusInfinity else .plusInfinity
  | .finite x => .units x.units

end Pushdown
