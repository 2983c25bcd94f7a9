import Mathlib.Algebra.Order.Field.Basic
import Mathlib.Algebra.Order.Field.Rat
import Pushdown.Proofs.Membership

/-!
Which bounds make a range. Numbers of all kinds are compared at their exact values, so bounds of
numbers are accepted just if some rational number is within them, and they are a single value just
if one number alone is.
-/
namespace Pushdown

/-- The exact value of a finite double. -/
def FiniteDouble.exact (x : FiniteDouble) : ℚ :=
  (if x.negative then -1 else 1) * x.significand * 2 ^ (x.shift - 1074 : ℤ)

/-- The exact value of a finite number. -/
def Value.rational? : Value → Option ℚ
  | .bool b => some (if b then 1 else 0)
  | .int n => some n
  | .double (.finite x) => some x.exact
  | _ => none

theorem two_zpow_sub_mul (shift k : ℕ) : (2 : ℚ) ^ (shift - k : ℤ) * 2 ^ k = 2 ^ shift := by
  rw [← zpow_natCast, ← zpow_natCast, ← zpow_add₀ (by norm_num), sub_add_cancel]

theorem FiniteDouble.exact_mul_unitsPerOne (x : FiniteDouble) :
    x.exact * unitsPerOne = x.units := by
  obtain ⟨k, hk, hunits⟩ := exists_unitsPerOne_eq
  have hpow : (2 : ℚ) ^ (x.shift - 1074 : ℤ) * 2 ^ k = 2 ^ x.shift := by
    rw [← two_zpow_sub_mul x.shift k, hk]
    rfl
  have hexact : x.exact * 2 ^ k =
      (if x.negative then -1 else 1) * (x.significand * 2 ^ x.shift) := by
    rw [exact, mul_assoc, hpow, mul_assoc]
  rw [hunits, units, Nat.cast_pow, Nat.cast_ofNat, hexact, Nat.pow_eq]
  split
  · push_cast
    ring
  · push_cast
    ring

namespace Value

variable {v w : Value} {q r : ℚ}

/-- A finite number is on the number line, at its exact value. -/
theorem number?_of_rational? (h : v.rational? = some q) :
    ∃ n : ℤ, v.number? = some (.units n) ∧ q * unitsPerOne = n := by
  cases v with
  | bool b =>
    cases h
    have hcast : ((if b then 1 else 0 : ℤ) : ℚ) = if b then 1 else 0 := by cases b <;> rfl
    exact ⟨_, rfl, by rw [Int.cast_mul, hcast, Int.cast_natCast]⟩
  | int n =>
    cases h
    exact ⟨_, rfl, by rw [Int.cast_mul, Int.cast_natCast]⟩
  | double x =>
    cases x with
    | finite x =>
      cases h
      exact ⟨_, rfl, x.exact_mul_unitsPerOne⟩
    | _ => cases h
  | _ => cases h

theorem lt?_of_rational? (hv : v.rational? = some q) (hw : w.rational? = some r) :
    v.lt? w = some (decide (q < r)) := by
  obtain ⟨m, hm, hq⟩ := number?_of_rational? hv
  obtain ⟨n, hn, hr⟩ := number?_of_rational? hw
  have hpos : (0 : ℚ) < unitsPerOne := Nat.cast_pos.mpr unitsPerOne_pos
  have hlt : m < n ↔ q < r := by
    rw [← Int.cast_lt (R := ℚ), ← hq, ← hr, mul_lt_mul_iff_left₀ hpos]
  simp [lt?, hm, hn, Number.lt, hlt]

theorem same_of_rational? (hv : v.rational? = some q) (hw : w.rational? = some r) :
    v.same w = decide (q = r) := by
  obtain ⟨m, hm, hq⟩ := number?_of_rational? hv
  obtain ⟨n, hn, hr⟩ := number?_of_rational? hw
  have hne : (unitsPerOne : ℚ) ≠ 0 := Nat.cast_ne_zero.mpr unitsPerOne_pos.ne'
  have heq : m = n ↔ q = r := by
    rw [← Int.cast_inj (α := ℚ), ← hq, ← hr, mul_left_inj' hne]
  simp [same, hm, hn, Number.eq, heq]

end Value

/-! Points between bounds, on a dense line without ends. -/

namespace Bounds

variable {α : Type} [LinearOrder α] {place : Value → Option α} {b : Bounds} {l h x : α}
  {low high : Value}

theorem contains_iff (hlow : b.low = some low) (hl : place low = some l)
    (hhigh : b.high = some high) (hh : place high = some h) :
    b.Contains place x ↔ (l < x ∨ b.lowInclusive = true ∧ l = x) ∧
      (x < h ∨ b.highInclusive = true ∧ x = h) := by
  simp [Contains, hlow, hl, hhigh, hh]

/-- Without a low bound, all that is below a point within the bounds is within them too. -/
theorem contains_of_lt (hlow : b.low = none) (hx : b.Contains place x) {y : α} (hy : y < x) :
    b.Contains place y := by
  constructor
  · intro low hl
    rw [hlow] at hl
    cases hl
  · intro high hhigh
    obtain ⟨h, hh, hxh⟩ := hx.2 high hhigh
    rcases hxh with hlt | ⟨-, rfl⟩
    · exact ⟨h, hh, .inl (hy.trans hlt)⟩
    · exact ⟨x, hh, .inl hy⟩

theorem contains_of_gt (hhigh : b.high = none) (hx : b.Contains place x) {y : α} (hy : x < y) :
    b.Contains place y := by
  constructor
  · intro low hlow
    obtain ⟨l, hl, hlx⟩ := hx.1 low hlow
    rcases hlx with hlt | ⟨-, rfl⟩
    · exact ⟨l, hl, .inl (hlt.trans hy)⟩
    · exact ⟨l, hl, .inl hy⟩
  · intro high hh
    rw [hhigh] at hh
    cases hh

/-- Bounds that leave a side open have no point alone between them. -/
theorem not_existsUnique_contains [NoMinOrder α] [NoMaxOrder α]
    (hopen : b.low = none ∨ b.high = none) : ¬∃! x, b.Contains place x := by
  rintro ⟨x, hx, hone⟩
  rcases hopen with hlow | hhigh
  · obtain ⟨y, hy⟩ := exists_lt x
    exact hy.ne (hone y (contains_of_lt hlow hx hy))
  · obtain ⟨y, hy⟩ := exists_gt x
    exact hy.ne' (hone y (contains_of_gt hhigh hx hy))

/-- Bounds that leave a side open have a point between them. -/
theorem exists_contains_of_open [Nonempty α] [NoMinOrder α] [NoMaxOrder α]
    (hplaced : ∀ v ∈ b.operands, ∃ l, place v = some l) (hopen : b.low = none ∨ b.high = none) :
    ∃ x, b.Contains place x := by
  obtain ⟨low?, lowInclusive, high?, highInclusive⟩ := b
  cases low? with
  | none =>
    cases high? with
    | none => simp [Contains]
    | some high =>
      obtain ⟨h, hh⟩ := hplaced high (by simp [operands])
      obtain ⟨x, hx⟩ := exists_lt h
      exact ⟨x, by simp [Contains, hh, hx]⟩
  | some low =>
    cases high? with
    | none =>
      obtain ⟨l, hl⟩ := hplaced low (by simp [operands])
      obtain ⟨x, hx⟩ := exists_gt l
      exact ⟨x, by simp [Contains, hl, hx]⟩
    | some high => simp at hopen

variable [DenselyOrdered α]

/-- Two bounds have a point between them just if they are in order or are one point themselves. -/
theorem exists_contains_iff (hlow : b.low = some low) (hl : place low = some l)
    (hhigh : b.high = some high) (hh : place high = some h) :
    (∃ x, b.Contains place x) ↔
      l < h ∨ l = h ∧ b.lowInclusive = true ∧ b.highInclusive = true := by
  simp only [contains_iff hlow hl hhigh hh]
  constructor
  · rintro ⟨x, hlt | ⟨hli, rfl⟩, hgt | ⟨hhi, rfl⟩⟩
    · exact .inl (hlt.trans hgt)
    · exact .inl hlt
    · exact .inl hgt
    · exact .inr ⟨rfl, hli, hhi⟩
  · rintro (hlt | ⟨rfl, hli, hhi⟩)
    · obtain ⟨x, hlx, hxh⟩ := exists_between hlt
      exact ⟨x, .inl hlx, .inl hxh⟩
    · exact ⟨l, .inr ⟨hli, rfl⟩, .inr ⟨hhi, rfl⟩⟩

/-- Two bounds have one point between them just if they are one point themselves. -/
theorem existsUnique_contains_iff (hlow : b.low = some low) (hl : place low = some l)
    (hhigh : b.high = some high) (hh : place high = some h) :
    (∃! x, b.Contains place x) ↔ l = h ∧ b.lowInclusive = true ∧ b.highInclusive = true := by
  constructor
  · intro hone
    rcases (exists_contains_iff hlow hl hhigh hh).mp hone.exists with hlt | hpoint
    · -- Between bounds in order there is a second point.
      obtain ⟨x, hlx, hxh⟩ := exists_between hlt
      obtain ⟨y, hly, hyx⟩ := exists_between hlx
      have hx : b.Contains place x := (contains_iff hlow hl hhigh hh).mpr ⟨.inl hlx, .inl hxh⟩
      have hy : b.Contains place y :=
        (contains_iff hlow hl hhigh hh).mpr ⟨.inl hly, .inl (hyx.trans hxh)⟩
      exact absurd (hone.unique hy hx) hyx.ne
    · exact hpoint
  · rintro ⟨rfl, hli, hhi⟩
    refine ⟨l, (contains_iff hlow hl hhigh hh).mpr ⟨.inr ⟨hli, rfl⟩, .inr ⟨hhi, rfl⟩⟩, ?_⟩
    intro y hy
    rcases (contains_iff hlow hl hhigh hh).mp hy with ⟨hly | ⟨-, heq⟩, hyl⟩
    · rcases hyl with hyl | ⟨-, heq⟩
      · exact absurd hly hyl.asymm
      · exact heq
    · exact heq.symm

end Bounds

/-! Acceptance. -/

namespace Bounds

variable {b : Bounds} {low high : Value} {q r : ℚ}

/-- Nothing is wrong with an open side that is not called inclusive. -/
theorem fault?_of_open (hlow : b.low = none → b.lowInclusive = false)
    (hhigh : b.high = none → b.highInclusive = false) (hopen : b.low = none ∨ b.high = none) :
    b.fault? = none := by
  have hli : (b.low.isNone && b.lowInclusive) = false := by
    cases hl : b.low with
    | none => rw [hlow hl, Bool.and_false]
    | some low => rfl
  have hhi : (b.high.isNone && b.highInclusive) = false := by
    cases hh : b.high with
    | none => rw [hhigh hh, Bool.and_false]
    | some high => rfl
  rw [fault?, hli, hhi]
  rcases hopen with hl | hh
  · rw [hl]
    rfl
  · rw [hh]
    cases b.low <;> rfl

theorem single?_of_open (hopen : b.low = none ∨ b.high = none) : b.single? = none := by
  unfold single?
  rcases hopen with hlow | hhigh
  · rw [hlow]
  · rw [hhigh]
    cases b.low <;> rfl

/-- Nothing is wrong with two numbers if they are in order or are one number and both inclusive. -/
theorem fault?_eq_none_iff (hlow : b.low = some low) (hq : low.rational? = some q)
    (hhigh : b.high = some high) (hr : high.rational? = some r) :
    b.fault? = none ↔ q < r ∨ q = r ∧ b.lowInclusive = true ∧ b.highInclusive = true := by
  have hfault : b.fault? = boundsFault? low high (b.lowInclusive && b.highInclusive) := by
    simp [fault?, hlow, hhigh]
  rw [hfault, boundsFault?, Value.lt?_of_rational? hr hq, Value.same_of_rational? hq hr]
  rcases lt_trichotomy q r with hlt | rfl | hgt
  · simp [hlt, hlt.asymm, hlt.ne]
  · cases b.lowInclusive <;> simp
  · simp [hgt, hgt.asymm, hgt.ne']

theorem single?_isSome_iff (hlow : b.low = some low) (hq : low.rational? = some q)
    (hhigh : b.high = some high) (hr : high.rational? = some r) :
    b.single?.isSome = true ↔ q = r ∧ b.lowInclusive = true ∧ b.highInclusive = true := by
  simp only [single?, hlow, hhigh, Value.same_of_rational? hq hr]
  cases b.lowInclusive <;> cases b.highInclusive <;> simp

end Bounds

namespace Range

variable {b : Bounds} {r : Range}

theorem make_eq_ok : make b = .ok r ↔ r.toBounds = b := by
  unfold make
  constructor
  · intro h
    split at h
    · cases h
      rfl
    · cases h
  · rintro rfl
    split
    · rfl
    · rename_i fault h
      rw [r.sound] at h
      cases h

theorem make_eq_error {fault : RangeFault} : make b = .error fault ↔ b.fault? = some fault := by
  unfold make
  split
  · rename_i h
    simp [h]
  · rename_i other h
    simp [h]

theorem exists_make_eq_ok : (∃ r, make b = .ok r) ↔ b.fault? = none := by
  simp only [make_eq_ok]
  constructor
  · rintro ⟨r, rfl⟩
    exact r.sound
  · intro h
    exact ⟨⟨b, h⟩, rfl⟩

/-- Bounds of finite numbers make a range just if a rational number is within them, and a single
value just if one alone is. -/
theorem make_iff_satisfiable (hnumbers : ∀ v ∈ b.operands, ∃ q, v.rational? = some q)
    (hlow : b.low = none → b.lowInclusive = false)
    (hhigh : b.high = none → b.highInclusive = false) :
    ((∃ r, make b = .ok r) ↔ ∃ x : ℚ, b.Contains Value.rational? x) ∧
      ∀ r, make b = .ok r →
        (r.single?.isSome = true ↔ ∃! x : ℚ, b.Contains Value.rational? x) := by
  rw [exists_make_eq_ok]
  simp only [make_eq_ok]
  by_cases hopen : b.low = none ∨ b.high = none
  · constructor
    · exact iff_of_true (Bounds.fault?_of_open hlow hhigh hopen)
        (Bounds.exists_contains_of_open hnumbers hopen)
    · rintro r rfl
      rw [Bounds.single?_of_open hopen]
      exact iff_of_false Bool.false_ne_true (Bounds.not_existsUnique_contains hopen)
  · obtain ⟨hl, hh⟩ := not_or.mp hopen
    obtain ⟨low, hl⟩ := Option.ne_none_iff_exists'.mp hl
    obtain ⟨high, hh⟩ := Option.ne_none_iff_exists'.mp hh
    obtain ⟨p, hp⟩ := hnumbers low (by simp [Bounds.operands, hl])
    obtain ⟨q, hq⟩ := hnumbers high (by simp [Bounds.operands, hh])
    constructor
    · rw [Bounds.fault?_eq_none_iff hl hp hh hq, Bounds.exists_contains_iff hl hp hh hq]
    · rintro r rfl
      rw [Bounds.single?_isSome_iff hl hp hh hq, Bounds.existsUnique_contains_iff hl hp hh hq]

/-- The double 2⁵³ is below the next whole number, which is no double, and a truth value is the
number that it stands for. -/
theorem make_iff_satisfiable_mixed :
    let power : Value := .double (.finite ⟨false, 2 ^ 52, 1075, by decide, by decide, by decide⟩)
    let gap : Bounds := ⟨some power, false, some (.int (2 ^ 53 + 1)), false⟩
    let inverted : Bounds := ⟨some (.int (2 ^ 53 + 1)), true, some power, true⟩
    let point : Bounds := ⟨some (.bool true), true, some (.int 1), true⟩
    (∃ x : ℚ, gap.Contains Value.rational? x) ∧ (¬∃ x : ℚ, inverted.Contains Value.rational? x) ∧
      ∃! x : ℚ, point.Contains Value.rational? x := by
  intro power gap inverted point
  have hnumbers : ∀ b ∈ [gap, inverted, point], ∀ v ∈ b.operands, ∃ q, v.rational? = some q := by
    have hall : ∀ b ∈ [gap, inverted, point], ∀ v ∈ b.operands, v.rational?.isSome = true := by
      decide +kernel
    exact fun b hb v hv => Option.isSome_iff_exists.mp (hall b hb v hv)
  have hgap := make_iff_satisfiable (hnumbers gap (by simp)) (by simp [gap]) (by simp [gap])
  have hinverted := make_iff_satisfiable (hnumbers inverted (by simp)) (by simp [inverted])
    (by simp [inverted])
  have hpoint := make_iff_satisfiable (hnumbers point (by simp)) (by simp [point])
    (by simp [point])
  refine ⟨?_, ?_, ?_⟩
  · rw [← hgap.1, exists_make_eq_ok]
    decide +kernel
  · rw [← hinverted.1, exists_make_eq_ok]
    decide +kernel
  · exact (hpoint.2 ⟨point, by decide +kernel⟩ (make_eq_ok.mpr rfl)).mp (by decide +kernel)

end Range
end Pushdown
