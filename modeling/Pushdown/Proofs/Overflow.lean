import Mathlib.Tactic.Ring
import Pushdown.Number.Double

/-!
Which numbers are too large for a double. Rounding leaves the finite doubles just from halfway
between the largest of them and the next power of two on.
-/
namespace Pushdown

/-- The exponent of the units stays a name where it is used, so that the power is not computed. -/
theorem exists_unitsPerOne_eq : ∃ k, k = 1074 ∧ unitsPerOne = 2 ^ k := by
  obtain ⟨k, hk⟩ : ∃ k, k = 1074 := ⟨_, rfl⟩
  refine ⟨k, hk, ?_⟩
  unfold unitsPerOne
  rw [← hk, Nat.pow_eq]

theorem unitsPerOne_pos : 0 < unitsPerOne := by
  obtain ⟨k, -, hk⟩ := exists_unitsPerOne_eq
  rw [hk]
  exact Nat.two_pow_pos k

theorem bitLength_le_iff {n k : Nat} : bitLength n ≤ k ↔ n < 2 ^ k := by
  constructor
  · intro h
    exact (lt_two_pow_bitLength n).trans_le (Nat.pow_le_pow_right (by decide) h)
  · intro h
    by_contra hlt
    obtain ⟨m, hm⟩ := Nat.exists_eq_add_of_lt (Nat.lt_of_not_le hlt)
    have hle : 2 ^ (k + m) ≤ n := two_pow_le_of_bitLength hm
    have hmono : 2 ^ k ≤ 2 ^ (k + m) := Nat.pow_le_pow_right (by decide) (Nat.le_add_right k m)
    omega

/-- An even number is reached from halfway below it on, since ties go to even numbers. -/
theorem le_roundHalfEven_iff (num : Nat) {den k : Nat} (hden : 0 < den) (heven : k % 2 = 0)
    (hk : 0 < k) : k ≤ roundHalfEven num den ↔ (2 * k - 1) * den ≤ 2 * num := by
  obtain ⟨i, rfl⟩ : ∃ i, k = i + 1 := ⟨k - 1, by omega⟩
  have hdiv := Nat.div_add_mod num den
  have hmod := Nat.mod_lt num hden
  have htwice : 2 * (i + 1) - 1 = 2 * i + 1 := by omega
  unfold roundHalfEven
  rw [htwice]
  set q := num / den
  set r := num % den
  have hhalf : (2 * i + 1) * den = 2 * (den * i) + den := by ring
  rw [hhalf]
  rcases Nat.lt_trichotomy q i with hlt | rfl | hgt
  · -- The quotient is more than half below.
    have hle : den * (q + 1) ≤ den * i := Nat.mul_le_mul_left den hlt
    rw [Nat.mul_succ] at hle
    dsimp only
    split <;> omega
  · dsimp only
    split <;> omega
  · have hle : den * (i + 1) ≤ den * q := Nat.mul_le_mul_left den hgt
    rw [Nat.mul_succ] at hle
    dsimp only
    split <;> omega

namespace Double

variable {negative : Bool} {num den : Nat}

theorem ofUnitRatio_eq_infinity : ofUnitRatio negative num den = .infinity negative ↔
    if roundSignificand num den < 2 ^ 53 then 2045 < roundShift num den
    else 2044 < roundShift num den := by
  unfold ofUnitRatio
  simp only [Nat.pow_eq]
  split
  · split <;> simp <;> omega
  · split <;> simp <;> omega

theorem roundShift_le_iff {k : Nat} (num : Nat) (hden : 0 < den) :
    roundShift num den ≤ k ↔ num < 2 ^ (k + 53) * den := by
  rw [← Nat.div_lt_iff_lt_mul hden, ← bitLength_le_iff, roundShift]
  omega

/-- The sizes that the rounding of a number is decided by, in a common measure. -/
theorem exists_measure (k den : Nat) : ∃ size, (2 ^ 54 - 1) * 2 ^ k * den = (2 ^ 54 - 1) * size ∧
    2 ^ (k + 53) * den = 2 ^ 53 * size ∧ 2 ^ (k + 1 + 53) * den = 2 ^ 54 * size ∧
    (2 * 2 ^ 53 - 1) * (den * 2 ^ (k + 1)) = 2 * ((2 ^ 54 - 1) * size) := by
  refine ⟨2 ^ k * den, ?_, ?_, ?_, ?_⟩
  · rw [Nat.mul_assoc]
  · rw [Nat.pow_add, Nat.mul_comm (2 ^ k), Nat.mul_assoc]
  · rw [Nat.add_assoc, Nat.pow_add, Nat.mul_comm (2 ^ k), Nat.mul_assoc]
  · rw [Nat.pow_succ, Nat.mul_comm den]
    ring

/-- Rounding goes past significands of 53 digits that are shifted by `k + 1` just from halfway to
the next power of two on. -/
theorem rounds_past_iff (num k : Nat) (hden : 0 < den) :
    (if roundSignificand num den < 2 ^ 53 then k + 1 < roundShift num den
      else k < roundShift num den) ↔ (2 ^ 54 - 1) * 2 ^ k * den ≤ num := by
  have hlow := roundShift_le_iff num hden (k := k)
  have hhigh := roundShift_le_iff num hden (k := k + 1)
  have hround := le_roundHalfEven_iff num (k := 2 ^ 53)
    (Nat.mul_pos hden (Nat.two_pow_pos (roundShift num den))) (by decide) (by decide)
  obtain ⟨size, hthreshold, hbelow, habove, hhalf⟩ := exists_measure k den
  rw [hbelow] at hlow
  rw [habove] at hhigh
  rw [hthreshold, roundSignificand, Nat.pow_eq]
  rcases Nat.lt_trichotomy (roundShift num den) (k + 1) with hlt | heq | hgt
  · have := hlow.mp (Nat.le_of_lt_succ hlt)
    split <;> omega
  · -- Only here does it matter which way the significand is rounded.
    rw [heq, hhalf] at hround
    rw [heq]
    split <;> omega
  · split <;> omega

theorem ofUnitRatio_finite_or_infinity (negative : Bool) (num den : Nat) :
    (∃ x, ofUnitRatio negative num den = .finite x) ∨
      ofUnitRatio negative num den = .infinity negative := by
  unfold ofUnitRatio
  dsimp only
  split
  · split <;> simp
  · split <;> simp

theorem finite?_eq_none {x : Double} (h : (∃ y, x = .finite y) ∨ x = .infinity negative) :
    x.finite? = none ↔ x = .infinity negative := by
  rcases h with ⟨y, rfl⟩ | rfl
  · simp [finite?]
  · simp [finite?]

theorem ofInt?_eq_none {n : Int} : ofInt? n = none ↔
    ofUnitRatio (decide (n < 0)) (n.natAbs * unitsPerOne) 1 = .infinity (decide (n < 0)) :=
  finite?_eq_none (ofUnitRatio_finite_or_infinity ..)

/-- The least whole number that is too large for a double: halfway between the largest one and the
next power of two. -/
def overflowInteger : Nat := (2 ^ 54 - 1) * 2 ^ 970

theorem overflowInteger_le_iff {n k : Nat} :
    (2 ^ 54 - 1) * 2 ^ (970 + k) * 1 ≤ n * 2 ^ k ↔ overflowInteger ≤ n := by
  rw [Nat.mul_one, pow_add, ← Nat.mul_assoc, ← overflowInteger]
  exact Nat.mul_le_mul_right_iff (Nat.two_pow_pos k)

theorem ofInt?_eq_none_iff {n : Int} : ofInt? n = none ↔ overflowInteger ≤ n.natAbs := by
  obtain ⟨k, hk, hunits⟩ := exists_unitsPerOne_eq
  have hpast := (rounds_past_iff (n.natAbs * 2 ^ k) (970 + k) Nat.one_pos).trans
    overflowInteger_le_iff
  have hshift : 970 + k = 2044 := by omega
  rw [hshift] at hpast
  rw [ofInt?_eq_none, hunits]
  exact ofUnitRatio_eq_infinity.trans hpast

end Double
end Pushdown
