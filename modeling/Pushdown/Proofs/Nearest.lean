import Pushdown.Proofs.Overflow

/-!
Which numbers round to a double: those at most half a gap away from it, the ends only if its
significand is even.
-/
namespace Pushdown

/-- A quotient is rounded to what is at most a half away, at a half to the even one. -/
theorem roundHalfEven_eq_iff {num den k : Nat} (hden : 0 < den) : roundHalfEven num den = k ↔
    2 * (k * den) ≤ 2 * num + den ∧ 2 * num ≤ 2 * (k * den) + den ∧
      (k % 2 = 1 → 2 * (k * den) ≠ 2 * num + den ∧ 2 * num ≠ 2 * (k * den) + den) := by
  have hdiv := Nat.div_add_mod num den
  have hmod := Nat.mod_lt num hden
  unfold roundHalfEven
  set q := num / den
  set r := num % den
  rw [Nat.mul_comm k den]
  have hsucc := Nat.mul_succ den q
  dsimp only
  -- Only the quotient and its successor are near enough, the others are a whole `den` off.
  rcases Nat.lt_or_ge k q with hlt | hge
  · have hle : den * (k + 1) ≤ den * q := Nat.mul_le_mul_left den hlt
    rw [Nat.mul_succ] at hle
    split <;> omega
  · rcases Nat.lt_or_ge (q + 1) k with hgt | hle
    · have hle : den * (q + 2) ≤ den * k := Nat.mul_le_mul_left den hgt
      rw [Nat.mul_succ, hsucc] at hle
      split <;> omega
    · obtain rfl | rfl : k = q ∨ k = q + 1 := by omega
      · split <;> omega
      · rw [hsucc]
        split <;> omega

/-- How far below a double the numbers that round to it begin, in quarters of the gap above it: the
gap below a power of two is half as wide. -/
def FiniteDouble.quartersBelow (x : FiniteDouble) : Nat :=
  if x.significand = 2 ^ 52 ∧ x.shift ≠ 0 then 1 else 2

/-- Whether `num / den` units round to a double. -/
def FiniteDouble.Takes (x : FiniteDouble) (num den : Nat) : Prop :=
  let gap := 2 ^ x.shift * den
  4 * (x.significand * gap) ≤ 4 * num + x.quartersBelow * gap ∧
    4 * num ≤ 4 * (x.significand * gap) + 2 * gap ∧
    (x.significand % 2 = 1 → 4 * (x.significand * gap) ≠ 4 * num + x.quartersBelow * gap ∧
      4 * num ≠ 4 * (x.significand * gap) + 2 * gap)

theorem FiniteDouble.quartersBelow_spec (x : FiniteDouble) :
    x.quartersBelow = 1 ∧ x.significand = 2 ^ 52 ∧ x.shift ≠ 0 ∨
      x.quartersBelow = 2 ∧ (x.shift = 0 ∨ 2 ^ 52 < x.significand) := by
  have hnormal : x.shift = 0 ∨ 2 ^ 52 ≤ x.significand := x.normal
  unfold quartersBelow
  split
  · rename_i h
    exact .inl ⟨rfl, h⟩
  · exact .inr ⟨rfl, by omega⟩

namespace Double

variable {negative : Bool} {num den : Nat}

theorem roundSignificand_eq_iff {k : Nat} (num : Nat) (hden : 0 < den) :
    roundSignificand num den = k ↔
    let gap := 2 ^ roundShift num den * den
    2 * (k * gap) ≤ 2 * num + gap ∧ 2 * num ≤ 2 * (k * gap) + gap ∧
      (k % 2 = 1 → 2 * (k * gap) ≠ 2 * num + gap ∧ 2 * num ≠ 2 * (k * gap) + gap) := by
  have hgap : den * Nat.pow 2 (roundShift num den) = 2 ^ roundShift num den * den := Nat.mul_comm ..
  rw [roundSignificand, hgap]
  exact roundHalfEven_eq_iff (Nat.mul_pos (Nat.two_pow_pos _) hden)

/-- Past 53 digits a significand is half of one with a larger shift. -/
theorem ofUnitRatio_eq_finite_iff {x : FiniteDouble} : ofUnitRatio negative num den = .finite x ↔
    x.negative = negative ∧
      (x.significand = roundSignificand num den ∧ x.shift = roundShift num den ∨
        roundSignificand num den = 2 ^ 53 ∧ x.significand = 2 ^ 52 ∧
          x.shift = roundShift num den + 1) := by
  have hle := roundSignificand_le num den
  obtain ⟨sign, significand, shift, hlt, hshift, hnormal⟩ := x
  unfold ofUnitRatio
  simp only [Nat.pow_eq] at hle hlt ⊢
  split
  · split
    · simp only [finite.injEq, FiniteDouble.mk.injEq]
      grind
    · simp only [reduceCtorEq, false_iff]
      omega
  · split
    · simp only [finite.injEq, FiniteDouble.mk.injEq]
      grind
    · simp only [reduceCtorEq, false_iff]
      omega

/-- A shift is enough just if it leaves 53 digits. -/
theorem roundShift_le_iff_gap {k : Nat} (num : Nat) (hden : 0 < den) :
    roundShift num den ≤ k ↔ num < 2 ^ 53 * (2 ^ k * den) := by
  rw [roundShift_le_iff num hden, Nat.pow_add, Nat.mul_comm (2 ^ k), Nat.mul_assoc]

theorem gap_succ (k den : Nat) : 2 ^ (k + 1) * den = 2 * (2 ^ k * den) := by
  rw [Nat.pow_succ', Nat.mul_assoc]

theorem le_of_roundShift_ne_zero (hden : 0 < den) (h : roundShift num den ≠ 0) :
    2 ^ 52 * (2 ^ roundShift num den * den) ≤ num := by
  obtain ⟨k, hk⟩ := Nat.exists_eq_succ_of_ne_zero h
  have hshort : ¬ roundShift num den ≤ k := by omega
  rw [roundShift_le_iff_gap _ hden] at hshort
  rw [hk, Nat.succ_eq_add_one, gap_succ k den]
  omega

theorem takes_of_rounded {x : FiniteDouble} (hden : 0 < den)
    (h : x.significand = roundSignificand num den ∧ x.shift = roundShift num den) :
    x.Takes num den := by
  have hround := (roundSignificand_eq_iff num hden).mp h.1.symm
  unfold FiniteDouble.Takes
  rw [h.2]
  dsimp only at hround ⊢
  rcases x.quartersBelow_spec with ⟨hquarters, hpower, hshift⟩ | ⟨hquarters, -⟩
  · rw [hpower] at hround
    rw [hquarters, hpower]
    have := le_of_roundShift_ne_zero hden (h.2 ▸ hshift)
    omega
  · rw [hquarters]
    omega

theorem takes_of_carried {x : FiniteDouble} (hden : 0 < den)
    (h : roundSignificand num den = 2 ^ 53 ∧ x.significand = 2 ^ 52 ∧
      x.shift = roundShift num den + 1) : x.Takes num den := by
  have hround := (roundSignificand_eq_iff num hden).mp h.1
  have hhigh := (roundShift_le_iff_gap num hden).mp (Nat.le_refl _)
  have hquarters : x.quartersBelow = 1 :=
    if_pos ⟨h.2.1, fun hzero => Nat.succ_ne_zero _ (h.2.2.symm.trans hzero)⟩
  unfold FiniteDouble.Takes
  rw [hquarters, h.2.1, h.2.2, gap_succ]
  dsimp only at hround ⊢
  omega

theorem roundShift_le_of_takes {x : FiniteDouble} (hden : 0 < den) (h : x.Takes num den) :
    roundShift num den ≤ x.shift := by
  have hgap : 0 < 2 ^ x.shift * den := Nat.mul_pos (Nat.two_pow_pos _) hden
  have hlt : (x.significand + 1) * (2 ^ x.shift * den) ≤ 2 ^ 53 * (2 ^ x.shift * den) :=
    Nat.mul_le_mul_right _ x.significand_lt
  rw [Nat.add_mul] at hlt
  rw [roundShift_le_iff_gap _ hden]
  have hhigh := h.2.1
  omega

theorem rounded_of_takes {x : FiniteDouble} (hden : 0 < den) (h : x.Takes num den) :
    x.significand = roundSignificand num den ∧ x.shift = roundShift num den ∨
      roundSignificand num den = 2 ^ 53 ∧ x.significand = 2 ^ 52 ∧
        x.shift = roundShift num den + 1 := by
  have hbits {k : Nat} := roundShift_le_iff_gap num hden (k := k)
  have hround {k : Nat} := roundSignificand_eq_iff num hden (k := k)
  have hle := roundShift_le_of_takes hden h
  unfold FiniteDouble.Takes at h
  dsimp only at h hround
  -- With a smaller shift than the double's, the number lies in the narrow gap below a power of two.
  rcases Nat.eq_or_lt_of_le hle with heq | hlt
  · rw [heq] at hround
    refine .inl ⟨(hround.mpr ?_).symm, heq.symm⟩
    rcases x.quartersBelow_spec with ⟨hquarters, -⟩ | ⟨hquarters, -⟩ <;> rw [hquarters] at h <;>
      omega
  · obtain ⟨k, hk⟩ : ∃ k, x.shift = k + 1 := ⟨x.shift - 1, by omega⟩
    have hlow : num < 2 ^ 53 * (2 ^ k * den) := hbits.mp (by omega)
    rw [hk, gap_succ k den] at h
    rcases x.quartersBelow_spec with ⟨hquarters, hpower, -⟩ | ⟨hquarters, hlarge⟩
    · rw [hquarters, hpower] at h
      have hshift : roundShift num den = k := by
        refine Nat.le_antisymm (by omega) (Nat.le_of_not_lt fun hlt => ?_)
        obtain ⟨j, rfl⟩ : ∃ j, k = j + 1 := ⟨k - 1, by omega⟩
        have hshort := hbits.mp (Nat.le_of_lt_succ hlt)
        rw [gap_succ j den] at h
        omega
      rw [hshift] at hround
      refine .inr ⟨hround.mpr ?_, hpower, by omega⟩
      omega
    · have hnext : (2 ^ 52 + 1) * (2 * (2 ^ k * den)) ≤ x.significand * (2 * (2 ^ k * den)) :=
        Nat.mul_le_mul_right _ (hlarge.resolve_left (by omega))
      rw [hquarters] at h
      omega

/-- What rounds to a double is what is rounded to it. -/
theorem ofUnitRatio_eq_finite_iff_takes {x : FiniteDouble} (hden : 0 < den) :
    ofUnitRatio negative num den = .finite x ↔ x.negative = negative ∧ x.Takes num den := by
  rw [ofUnitRatio_eq_finite_iff]
  exact and_congr_right fun _ =>
    ⟨fun h => h.elim (takes_of_rounded hden) (takes_of_carried hden), rounded_of_takes hden⟩

end Double

/-! The nearest double. -/

namespace FiniteDouble

def magnitude (x : FiniteDouble) : Nat := x.significand * 2 ^ x.shift

theorem units_eq (x : FiniteDouble) :
    x.units = if x.negative then -(x.magnitude : Int) else x.magnitude := by
  simp [units, magnitude]

variable {x y : FiniteDouble}

/-- A magnitude stays a gap below the next power of two. -/
theorem magnitude_add_gap_le {k : Nat} (h : x.shift ≤ k) :
    x.magnitude + 2 ^ k ≤ 2 ^ 53 * 2 ^ k := by
  have hlt : x.significand < 2 ^ 53 := x.significand_lt
  have hle : x.significand * 2 ^ x.shift ≤ x.significand * 2 ^ k :=
    Nat.mul_le_mul_left _ (Nat.pow_le_pow_right (by decide) h)
  have hnext : (x.significand + 1) * 2 ^ k ≤ 2 ^ 53 * 2 ^ k := Nat.mul_le_mul_right _ hlt
  rw [Nat.add_mul] at hnext
  unfold magnitude
  omega

theorem power_le_magnitude (h : x.shift ≠ 0) : 2 ^ 52 * 2 ^ x.shift ≤ x.magnitude :=
  Nat.mul_le_mul_right _ (x.normal.resolve_left h)

/-- The next larger magnitude is a gap away. -/
theorem gap_above (h : x.magnitude < y.magnitude) : x.magnitude + 2 ^ x.shift ≤ y.magnitude := by
  rcases le_or_gt x.shift y.shift with hle | hlt
  · obtain ⟨k, hk⟩ := Nat.exists_eq_add_of_le hle
    have hmultiple : y.magnitude = y.significand * 2 ^ k * 2 ^ x.shift := by
      rw [magnitude, hk, Nat.pow_add, Nat.mul_comm (2 ^ x.shift), Nat.mul_assoc]
    rw [hmultiple, magnitude] at h ⊢
    rw [← Nat.succ_mul]
    exact Nat.mul_le_mul_right _ (Nat.lt_of_mul_lt_mul_right h)
  · obtain ⟨k, hk⟩ : ∃ k, x.shift = k + 1 := ⟨x.shift - 1, by omega⟩
    have hsmall := magnitude_add_gap_le (x := y) (k := k) (by omega)
    have hlarge := power_le_magnitude (x := x) (by omega)
    rw [hk, pow_succ 2 k] at hlarge
    omega

/-- The next smaller magnitude is a gap away, from a power of two half a gap. -/
theorem gap_below (h : y.magnitude < x.magnitude) :
    2 * y.magnitude + x.quartersBelow * 2 ^ x.shift ≤ 2 * x.magnitude := by
  have hquarters := x.quartersBelow_spec
  rcases le_or_gt x.shift y.shift with hle | hlt
  · have hgap := gap_above h
    have hmono : 2 ^ x.shift ≤ 2 ^ y.shift := Nat.pow_le_pow_right (by decide) hle
    rcases hquarters with ⟨hq, -⟩ | ⟨hq, -⟩ <;> rw [hq] <;> omega
  · obtain ⟨k, hk⟩ : ∃ k, x.shift = k + 1 := ⟨x.shift - 1, by omega⟩
    have hsmall := magnitude_add_gap_le (x := y) (k := k) (by omega)
    unfold magnitude at hsmall ⊢
    rw [hk, pow_succ 2 k]
    rcases hquarters with ⟨hq, hpower, -⟩ | ⟨hq, hlarge⟩
    · rw [hq, hpower]
      omega
    · have hnext : (2 ^ 52 + 1) * (2 ^ k * 2) ≤ x.significand * (2 ^ k * 2) :=
        Nat.mul_le_mul_right _ (hlarge.resolve_left (by omega))
      rw [hq]
      omega

/-- No magnitude is nearer to a number of units than that of the double the number rounds to. -/
theorem Takes.nearest {num : Nat} (h : x.Takes num 1) (y : FiniteDouble) :
    ((x.magnitude : Int) - num).natAbs ≤ ((y.magnitude : Int) - num).natAbs := by
  obtain ⟨hlow, hhigh, -⟩ := h
  rw [Nat.mul_one, ← magnitude] at hlow hhigh
  rcases Nat.lt_trichotomy x.magnitude y.magnitude with hlt | heq | hgt
  · have := gap_above hlt
    omega
  · rw [heq]
  · have := gap_below hgt
    omega

end FiniteDouble

namespace Double

theorem finite?_eq_some {d : Double} {x : FiniteDouble} : d.finite? = some x ↔ d = .finite x := by
  cases d <;> simp [finite?]

theorem ofInt?_eq_some_iff {n : Int} {x : FiniteDouble} : ofInt? n = some x ↔
    x.negative = decide (n < 0) ∧ x.Takes (n.natAbs * unitsPerOne) 1 := by
  rw [ofInt?, finite?_eq_some, ofUnitRatio_eq_finite_iff_takes Nat.one_pos]

/-- A multiple by its sign and size. -/
theorem int_mul_eq (n : Int) (unit : Nat) : n * unit =
    if n < 0 then -((n.natAbs * unit : Nat) : Int) else (n.natAbs * unit : Nat) := by
  split
  · rw [Nat.cast_mul, Int.ofNat_natAbs_of_nonpos (by omega), Int.neg_mul, Int.neg_neg]
  · rw [Nat.cast_mul, Int.natAbs_of_nonneg (by omega)]

/-- An integer is converted to the nearest double. -/
theorem ofInt?_nearest {n : Int} {x : FiniteDouble} (h : ofInt? n = some x) (y : FiniteDouble) :
    (x.units - n * unitsPerOne).natAbs ≤ (y.units - n * unitsPerOne).natAbs := by
  obtain ⟨hsign, htakes⟩ := ofInt?_eq_some_iff.mp h
  have hy := htakes.nearest y
  have hzero := htakes.nearest (.zero false)
  have hnone : (FiniteDouble.zero false).magnitude = 0 := Nat.zero_mul _
  rw [x.units_eq, y.units_eq, hsign, int_mul_eq]
  rw [hnone] at hzero
  generalize n.natAbs * unitsPerOne = size at *
  -- A double of the other sign is no nearer than zero.
  by_cases hn : n < 0
  · simp only [hn, decide_true, if_true]
    split <;> omega
  · simp only [hn, decide_false, Bool.false_eq_true, if_false]
    split <;> omega

end Double
end Pushdown
