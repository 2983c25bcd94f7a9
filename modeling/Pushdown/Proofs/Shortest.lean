import Pushdown.Number.Shortest
import Pushdown.Proofs.Nearest

/-!
The digits that stand for a double. The number they write rounds to the double, whatever zeros are
added to them.
-/
namespace Pushdown

namespace RoundingInterval

variable {i : RoundingInterval} {unit step : Nat}

theorem gridPoint?_has {n : Nat} (h : i.gridPoint? step = some n) : i.has (n * step) = true := by
  unfold gridPoint? at h
  dsimp only at h
  split at h <;> cases h
  · split <;> assumption
  · assumption
  · assumption

/-- A grid as fine as the lower part of the interval has a point in it. -/
theorem has_lower (hstep : 0 < step) (hbelow : step ≤ i.below) (habove : 0 < i.above) :
    i.has (i.value / step * step) = true := by
  have hdiv := Nat.div_add_mod i.value step
  have hmod := Nat.mod_lt i.value hstep
  rw [Nat.mul_comm] at hdiv
  unfold has
  split <;> simp only [decide_eq_true_eq] <;> omega

/-- The search ends on a point of the interval. -/
theorem coarsest_has (hunit : 0 < unit) (hbelow : unit ≤ i.below) (habove : 0 < i.above)
    (fuel : Nat) : i.has ((i.coarsest unit fuel).1 *
      (unit * 10 ^ (i.coarsest unit fuel).2)) = true := by
  induction fuel with
  | zero =>
    rw [coarsest, pow_zero, Nat.mul_one]
    exact has_lower hunit hbelow habove
  | succ k ih =>
    rw [coarsest]
    split
    · rename_i hpoint
      exact gridPoint?_has hpoint
    · exact ih

end RoundingInterval

namespace FiniteDouble

variable {x : FiniteDouble} {num den : Nat}

/-- The interval is that of the numbers that round to the double. -/
theorem roundingInterval_has_iff {n : Nat} :
    x.roundingInterval.has (4 * n) = true ↔ x.Takes n (10 ^ 324) := by
  -- The scale stays a name, so that the power is not computed.
  obtain ⟨k, hk⟩ : ∃ k, k = 324 := ⟨_, rfl⟩
  have hbelow (unit : Nat) : (if x.significand = 2 ^ 52 ∧ x.shift ≠ 0 then unit else 2 * unit) =
      x.quartersBelow * unit := by
    unfold quartersBelow
    split <;> omega
  unfold RoundingInterval.has roundingInterval Takes
  rw [← hk]
  simp only [Nat.pow_eq, beq_iff_eq, Nat.mul_assoc 4, hbelow]
  split <;> simp only [decide_eq_true_eq] <;> omega

theorem takes_mul {c : Nat} (hc : 0 < c) : x.Takes (num * c) (den * c) ↔ x.Takes num den := by
  have hle {a b : Nat} : a * c ≤ b * c ↔ a ≤ b := Nat.mul_le_mul_right_iff hc
  have heq {a b : Nat} : a * c = b * c ↔ a = b := Nat.mul_left_inj hc.ne'
  unfold Takes
  simp only [← Nat.mul_assoc, ← Nat.add_mul, hle, heq, ne_eq]

/-- Only the quotient matters. -/
theorem Takes.congr {num' den' : Nat} (h : x.Takes num den) (hden : 0 < den) (hden' : 0 < den')
    (heq : num' * den = num * den') : x.Takes num' den' := by
  rw [← takes_mul hden, heq, Nat.mul_comm den' den]
  exact (takes_mul hden').mpr h

/-- Units lie closer together than the interval of any double is wide. -/
theorem unitsPerOne_le_scale : 4 * unitsPerOne ≤ 2 * 10 ^ 324 := by decide +kernel

/-- The number that the digits write rounds to the double. -/
theorem takes_coarsest (x : FiniteDouble) :
    let point := x.roundingInterval.coarsest (4 * unitsPerOne) 634
    x.Takes (point.1 * unitsPerOne * 10 ^ point.2) (10 ^ 324) := by
  intro point
  obtain ⟨k, hk⟩ : ∃ k, k = 324 := ⟨_, rfl⟩
  have hbelow : 4 * unitsPerOne ≤ x.roundingInterval.below := by
    refine unitsPerOne_le_scale.trans ?_
    unfold roundingInterval
    rw [← hk]
    simp only [Nat.pow_eq]
    split
    · rename_i hpower
      obtain ⟨j, hj⟩ := Nat.exists_eq_succ_of_ne_zero hpower.2
      rw [hj, pow_succ' 2 j, Nat.mul_assoc]
      exact Nat.mul_le_mul_left 2 (Nat.le_mul_of_pos_left _ (Nat.two_pow_pos j))
    · exact Nat.mul_le_mul_left 2 (Nat.le_mul_of_pos_left _ (Nat.two_pow_pos x.shift))
  have habove : 0 < x.roundingInterval.above := by
    unfold roundingInterval
    rw [← hk]
    exact Nat.mul_pos (by decide) (Nat.mul_pos (Nat.two_pow_pos _) (Nat.pow_pos (by decide)))
  have hhas := RoundingInterval.coarsest_has (Nat.mul_pos (by decide) unitsPerOne_pos) hbelow
    habove 634
  have hpoint : point.1 * (4 * unitsPerOne * 10 ^ point.2) =
      4 * (point.1 * unitsPerOne * 10 ^ point.2) := by
    ring
  rw [← roundingInterval_has_iff, ← hpoint]
  exact hhas

/-- Digits are written for every double but zero. -/
theorem coarsest_pos (hx : x.significand ≠ 0) :
    0 < (x.roundingInterval.coarsest (4 * unitsPerOne) 634).1 := by
  obtain ⟨hlow, -⟩ := x.takes_coarsest
  obtain ⟨k, hk⟩ : ∃ k, k = 324 := ⟨_, rfl⟩
  rw [← hk] at hlow
  have hgap : 0 < 2 ^ x.shift * 10 ^ k := Nat.mul_pos (Nat.two_pow_pos _) (Nat.pow_pos (by decide))
  have hle : 1 * (2 ^ x.shift * 10 ^ k) ≤ x.significand * (2 ^ x.shift * 10 ^ k) :=
    Nat.mul_le_mul_right _ (Nat.pos_of_ne_zero hx)
  by_contra hzero
  rw [Nat.eq_zero_of_not_pos hzero, Nat.zero_mul, Nat.zero_mul] at hlow
  rcases x.quartersBelow_spec with ⟨hq, -⟩ | ⟨hq, -⟩ <;> rw [hq] at hlow <;> omega

theorem scale_pos : 0 < 10 ^ 324 := by decide +kernel

theorem largest_lt_decimal : 2 ^ 53 * 2 ^ 971 < 10 ^ 309 := by decide +kernel

/-- What rounds to a double is less than `10 ^ 309`. -/
theorem Takes.lt_decimal {n k : Nat} (h : x.Takes (n * unitsPerOne * 10 ^ k) (10 ^ 324)) :
    n * 10 ^ k < 10 ^ 309 * 10 ^ 324 := by
  obtain ⟨-, hhigh, -⟩ := h
  have hscale := scale_pos
  generalize 10 ^ 324 = scale at *
  obtain ⟨j, hj, hunits⟩ := exists_unitsPerOne_eq
  have hgap : 2 ^ x.shift ≤ 2 ^ 971 * 2 ^ j := by
    rw [← pow_add]
    exact Nat.pow_le_pow_right (by decide) (x.shift_le.trans (by omega))
  have hlarge := largest_lt_decimal
  generalize 2 ^ 971 = large at *
  have hlt : (x.significand + 1) * (2 ^ x.shift * scale) ≤ 2 ^ 53 * (2 ^ x.shift * scale) :=
    Nat.mul_le_mul_right _ x.significand_lt
  have hnumber : n * unitsPerOne * 10 ^ k ≤ 2 ^ 53 * (2 ^ x.shift * scale) := by
    rw [Nat.add_mul] at hlt
    omega
  have hle : n * 10 ^ k ≤ 2 ^ 53 * large * scale := by
    refine Nat.le_of_mul_le_mul_right ?_ (Nat.two_pow_pos j)
    calc n * 10 ^ k * 2 ^ j = n * unitsPerOne * 10 ^ k := by rw [hunits]; ring
      _ ≤ 2 ^ 53 * (2 ^ x.shift * scale) := hnumber
      _ ≤ 2 ^ 53 * (large * 2 ^ j * scale) :=
        Nat.mul_le_mul_left _ (Nat.mul_le_mul_right _ hgap)
      _ = 2 ^ 53 * large * scale * 2 ^ j := by ring
  exact hle.trans_lt (Nat.mul_lt_mul_of_pos_right hlarge hscale)

end FiniteDouble

/-- A number with as many zeros as a power has is smaller by its digits. -/
theorem lt_of_mul_pow_lt {n k top : Nat} (hn : 0 < n) (h : n * 10 ^ k < 10 ^ top) :
    k < top ∧ n < 10 ^ (top - k) := by
  have hk : k < top := by
    by_contra hlarge
    have hle : 10 ^ top ≤ 10 ^ k := Nat.pow_le_pow_right (by decide) (Nat.le_of_not_lt hlarge)
    have hone := Nat.mul_le_mul_right (10 ^ k) hn
    omega
  refine ⟨hk, Nat.lt_of_mul_lt_mul_right (a := 10 ^ k) ?_⟩
  rwa [← pow_add, Nat.sub_add_cancel hk.le]

/-- Zeros at the end make a number of digits longer by as many. -/
theorem length_toDigits_zeros {n length : Nat} (zeros : Nat) (hn : 0 < n) (hlength : 0 < length)
    (h : n < 10 ^ length) : zeros ≤ (Nat.toDigits 10 (10 ^ zeros * n)).length ∧
      (Nat.toDigits 10 (10 ^ zeros * n)).length ≤ zeros + length := by
  constructor
  · by_contra hshort
    have hlt := (Nat.length_toDigits_le_iff (by decide) (by omega)).mp (Nat.le_of_not_le hshort)
    exact absurd hlt (Nat.not_lt_of_le (Nat.le_mul_of_pos_right _ hn))
  · rw [Nat.length_toDigits_le_iff (by decide) (by omega), pow_add]
    exact Nat.mul_lt_mul_of_pos_left h (Nat.pow_pos (by decide))

/-- The double is what its digits are read as, also with zeros at their end. -/
theorem Double.ofDecimal_shortest {x : FiniteDouble} (hx : x.significand ≠ 0) (zeros : Nat) :
    ofDecimal x.negative (10 ^ zeros * x.shortest.1) (x.shortest.2 - zeros) = .finite x := by
  have htakes := x.takes_coarsest
  have hpos := x.coarsest_pos hx
  unfold FiniteDouble.shortest
  dsimp only at htakes ⊢
  generalize x.roundingInterval.coarsest (4 * unitsPerOne) 634 = point at *
  obtain ⟨n, k⟩ := point
  dsimp only at htakes hpos ⊢
  obtain ⟨top, htop⟩ : ∃ top, top = 309 + 324 := ⟨_, rfl⟩
  have hlt := htakes.lt_decimal
  rw [← pow_add, ← htop] at hlt
  obtain ⟨hk, hn⟩ := lt_of_mul_pow_lt hpos hlt
  obtain ⟨hlong, hshort⟩ := length_toDigits_zeros zeros hpos (by omega) hn
  have hne : 10 ^ zeros * n ≠ 0 := (Nat.mul_pos (Nat.pow_pos (by decide)) hpos).ne'
  unfold ofDecimal
  rw [if_neg hne]
  dsimp only
  rw [if_neg (by omega), if_neg (by omega)]
  split
  · rename_i hwhole
    rw [ofUnitRatio_eq_finite_iff_takes Nat.one_pos]
    refine ⟨rfl, htakes.congr FiniteDouble.scale_pos Nat.one_pos ?_⟩
    obtain ⟨e, he⟩ := Int.eq_ofNat_of_zero_le hwhole
    have hsum : k = zeros + e + 324 := by omega
    rw [he, Int.toNat_natCast, Nat.pow_eq, hsum, pow_add, pow_add]
    generalize 10 ^ 324 = scale
    ring
  · rename_i hpart
    have hden : 0 < Nat.pow 10 (-(k - 324 - zeros : Int)).toNat := Nat.pow_pos (by decide)
    rw [ofUnitRatio_eq_finite_iff_takes hden]
    refine ⟨rfl, htakes.congr FiniteDouble.scale_pos hden ?_⟩
    obtain ⟨e, he⟩ := Int.eq_ofNat_of_zero_le (show (0 : Int) ≤ -(k - 324 - zeros : Int) by omega)
    have hsum : 324 + zeros = k + e := by omega
    have hpow : 10 ^ 324 * 10 ^ zeros = 10 ^ k * 10 ^ e := by
      rw [← pow_add, ← pow_add, hsum]
    rw [he, Int.toNat_natCast, Nat.pow_eq]
    generalize 10 ^ 324 = scale at hpow ⊢
    calc 10 ^ zeros * n * unitsPerOne * scale = n * unitsPerOne * (scale * 10 ^ zeros) := by ring
      _ = n * unitsPerOne * 10 ^ k * 10 ^ e := by rw [hpow, Nat.mul_assoc (n * unitsPerOne)]

end Pushdown
