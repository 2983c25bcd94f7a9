import Pushdown.Proofs.ReadBack
import Pushdown.Proofs.Selection

/-!
Columns of doubles. Numbers of a domain are written as the nearest double, so a condition is that of
the domain whose values are all rounded. Rounding moves no number past a double; only a strict bound
that is moved onto a double leaves out what the domain admits.
-/
namespace Pushdown

open Sql

/-- The double that a number is converted to. -/
def Value.toDouble? : Value → Option FiniteDouble
  | .int n => Double.ofInt? n
  | .double x => x.finite?
  | _ => none

/-- The exact value of a number, in units of doubles. -/
def Value.units? : Value → Option Int
  | .int n => some (n * unitsPerOne)
  | .double x => x.finite?.map (·.units)
  | _ => none

/-- The value of the double that a number is converted to, in the same units. -/
def Value.rounded? (v : Value) : Option Int := v.toDouble?.map (·.units)

def Sql.Datum.units? : Datum → Option Int
  | .double x => some x.units
  | _ => none

/-- A bound that a range excludes. -/
def Bounds.Strict (b : Bounds) (v : Value) : Prop :=
  b.low = some v ∧ b.lowInclusive = false ∨ b.high = some v ∧ b.highInclusive = false

namespace Value

variable {v w : Value} {l m : Int}

theorem toDouble?_of_rounded? (h : v.rounded? = some m) :
    ∃ y, v.toDouble? = some y ∧ y.units = m :=
  Option.map_eq_some_iff.mp h

/-- No double is nearer to a number than the one it is converted to. -/
theorem rounded?_nearest (hl : v.units? = some l) (hm : v.rounded? = some m) (x : FiniteDouble) :
    (m - l).natAbs ≤ (x.units - l).natAbs := by
  obtain ⟨y, hy, rfl⟩ := toDouble?_of_rounded? hm
  cases v with
  | int n =>
    rw [toDouble?] at hy
    rw [← Option.some.inj hl]
    exact Double.ofInt?_nearest hy x
  | double d =>
    obtain rfl := Double.finite?_eq_some.mp hy
    obtain rfl := Option.some.inj hl
    rw [Int.sub_self]
    exact Nat.zero_le _
  | _ => cases hl

/-- What is a double already is not moved. -/
theorem rounded?_of_exact {x : FiniteDouble} (hl : v.units? = some x.units)
    (hm : v.rounded?.isSome) : v.rounded? = some x.units := by
  obtain ⟨m, hm⟩ := Option.isSome_iff_exists.mp hm
  have hnearest := rounded?_nearest hl hm x
  rw [hm, Option.some.injEq]
  omega

theorem units?_of_same (hsame : v.same w = true) (hv : v.rounded?.isSome)
    (hw : w.rounded?.isSome) : v.units? = w.units? := by
  have hnumber {u : Value} (hu : u.rounded?.isSome) :
      ∃ n, u.number? = some (.units n) ∧ u.units? = some n := by
    cases u with
    | int n => exact ⟨_, rfl, rfl⟩
    | double x =>
      cases x with
      | finite x => exact ⟨_, rfl, rfl⟩
      | _ => cases hu
    | _ => cases hu
  obtain ⟨n, hn, hvn⟩ := hnumber hv
  obtain ⟨k, hk, hwk⟩ := hnumber hw
  simp only [same, hn, hk, Number.eq, decide_eq_true_eq] at hsame
  rw [hvn, hwk, hsame]

/-- Numbers that are the same are converted to doubles that are. -/
theorem rounded?_of_same (hsame : v.same w = true) (hv : v.rounded? = some l)
    (hw : w.rounded?.isSome) : w.rounded? = some l := by
  have hsome : v.rounded?.isSome := hv ▸ rfl
  have hunits := units?_of_same hsame hsome hw
  cases v with
  | int n =>
    cases w with
    | int k => rw [← eq_of_same_int hsame, hv]
    | double y =>
      cases y with
      | finite y => exact (rounded?_of_exact hunits hsome).symm.trans hv
      | _ => cases hw
    | _ => cases hw
  | double x =>
    cases x with
    | finite x =>
      rw [← hv]
      exact rounded?_of_exact hunits.symm hw
    | _ => cases hsome
  | _ => cases hsome

end Value

section
variable {column : String} {dialect : Dialect} {q : Char} {row : Row}

theorem Literal.render_double {v : Value} {y : FiniteDouble} (h : v.toDouble? = some y) :
    Literal.render column (some v) dialect .double = .ok y.text := by
  cases v with
  | int n =>
    rw [Value.toDouble?] at h
    rw [render, doubleOf, h]
    rfl
  | double x =>
    rw [Double.finite?_eq_some.mp h]
    rfl
  | _ => cases h

theorem Value.isSome_rounded? {v : Option Value} (h : (v.bind Value.toDouble?).isSome) :
    (v.bind Value.rounded?).isSome := by
  cases v with
  | none => cases h
  | some v => exact Option.isSome_map.trans h

theorem Literal.accepts_of_toDouble? {v : Option Value} (h : (v.bind Value.toDouble?).isSome) :
    Accepts column dialect .double v := by
  cases v with
  | none => cases h
  | some v =>
    obtain ⟨y, hy⟩ := Option.isSome_iff_exists.mp h
    exact ⟨y.text, render_double hy⟩

/-- Doubles are related to what is rounded. -/
theorem Condition.placed_rounded (hq : IsQuote q)
    (hfit : ∀ x, row column = some x → x.Fits .double) :
    Placed q column dialect .double row Value.rounded? ((row column).bind Datum.units?) where
  isSome := by
    cases hrow : row column with
    | none => rfl
    | some x =>
      have hx := hfit x hrow
      cases x <;> cases hx
      rfl
  holds := by
    intro op v t hv h
    obtain ⟨m, hm⟩ := Option.isSome_iff_exists.mp hv
    obtain ⟨y, hy, rfl⟩ := Value.toDouble?_of_rounded? hm
    obtain ⟨literal, hrender, rfl⟩ := comparison_eq_ok.mp h
    obtain rfl := Except.ok.inj (hrender.symm.trans (Literal.render_double hy))
    have hreads := reads_number hq (isNumber_double y)
    rw [String.ofList_toList] at hreads
    have hbeside (x : FiniteDouble) :
        Constant.beside (.double x) (.number y.text.toList) = some (.double y) := by
      simp [Constant.beside, readDouble_text]
    have hconstant : Constant.ofLiteral q y.text = .number y.text.toList :=
      Constant.ofLiteral_eq hreads
    rw [Test.atom, hconstant]
    cases hrow : row column with
    | none => simp [Row.test, Row.datum?, hrow]
    | some x =>
      have hx := hfit x hrow
      cases x <;> cases hx
      rw [Row.test_compare_double hrow (hbeside _)]
      simp [hm, Datum.units?]
  same := Value.rounded?_of_same
  asymm := by
    intro v l x _ _ hlt
    omega

end

/-- The condition of listed doubles is the same text in every dialect. -/
theorem SqlStyle.condition_double {column quote : String} {d : Domain} (dialect : Dialect)
    (hset : d.set.kind = .some) : condition ⟨dialect, quote⟩ column d .double =
      condition ⟨.generic, quote⟩ column d .double := by
  have hdomain : Condition.ofDomain column dialect .double d =
      Condition.ofDomain column .generic .double d := rfl
  have htext (name : String) (disjuncts : List (List Test)) :
      Condition.text dialect name (.anyOf disjuncts) =
        Condition.text .generic name (.anyOf disjuncts) := by
    cases disjuncts with
    | nil => rfl
    | cons tests rest => cases rest <;> rfl
  rw [condition, condition, hdomain]
  cases hc : Condition.ofDomain column .generic .double d with
  | error fault => rfl
  | ok c =>
    rcases Condition.ofDomain_eq_ok hc with ⟨-, rfl⟩ | ⟨-, -, c, rfl, hcompiled⟩
    · rfl
    · cases hcompiled with
      | none hnone =>
        rw [hnone] at hset
        cases hset
      | notNull hall _ =>
        rw [hall] at hset
        cases hset
      | listed => exact congrArg (fun text => Except.ok (some text)) (htext _ _)

/-! What rounding leaves out. -/

/-- No excluded whole number among the bounds is moved onto a double by rounding. -/
def Bounds.Clear (b : Bounds) (x : FiniteDouble) : Prop :=
  ∀ n, b.Strict (.int n) → (Value.int n).rounded? = some x.units → n * unitsPerOne = x.units

/-- Rounding leaves a double within bounds unless it moves an excluded bound onto the double. -/
theorem Bounds.contains_rounded {b : Bounds} {x : FiniteDouble}
    (hops : ∀ v ∈ b.operands, v.rounded?.isSome) (hclear : b.Clear x)
    (h : b.Contains Value.units? x.units) : b.Contains Value.rounded? x.units := by
  have hexact {v : Value} {l m : Int} (hl : v.units? = some l) (hm : v.rounded? = some m)
      (hv : b.Strict v) (heq : m = x.units) : l = x.units := by
    cases v with
    | int n => rw [← Option.some.inj hl, hclear n hv (heq ▸ hm)]
    | double y => exact (Option.some.inj (hl.symm.trans hm)).trans heq
    | _ => cases hl
  -- The double itself is no nearer to a bound than what the bound is rounded to, so rounding can
  -- reach the double but not pass it.
  refine ⟨fun low hlow => ?_, fun high hhigh => ?_⟩
  · obtain ⟨l, hl, hbelow⟩ := h.1 low hlow
    obtain ⟨m, hm⟩ := Option.isSome_iff_exists.mp (hops low (by simp [operands, hlow]))
    have hnearest := Value.rounded?_nearest hl hm x
    refine ⟨m, hm, ?_⟩
    cases hincluded : b.lowInclusive with
    | true =>
      simp only [hincluded, true_and] at hbelow ⊢
      omega
    | false =>
      have hsame := hexact hl hm (.inl ⟨hlow, hincluded⟩)
      simp only [hincluded, Bool.false_eq_true, false_and, or_false] at hbelow ⊢
      omega
  · obtain ⟨l, hl, habove⟩ := h.2 high hhigh
    obtain ⟨m, hm⟩ := Option.isSome_iff_exists.mp (hops high (by simp [operands, hhigh]))
    have hnearest := Value.rounded?_nearest hl hm x
    refine ⟨m, hm, ?_⟩
    cases hincluded : b.highInclusive with
    | true =>
      simp only [hincluded, true_and] at habove ⊢
      omega
    | false =>
      have hsame := hexact hl hm (.inr ⟨hhigh, hincluded⟩)
      simp only [hincluded, Bool.false_eq_true, false_and, or_false] at habove ⊢
      omega

/-- A domain still admits a double after rounding, unless that moves an excluded bound onto it. -/
theorem Domain.admits_rounded {d : Domain} {x : FiniteDouble}
    (hops : ∀ v ∈ d.operands, (v.bind Value.rounded?).isSome)
    (hclear : ∀ r ∈ d.set.ranges, r.Clear x) (h : d.Admits Value.units? (some x.units)) :
    d.Admits Value.rounded? (some x.units) := by
  unfold Admits at h ⊢
  cases hset : d.set with
  | all => trivial
  | none =>
    rw [hset] at h
    exact h
  | some ranges values inhabited =>
    have hranges : d.set.ranges = ranges := by rw [hset]; rfl
    have hvalues : d.set.values = values := by rw [hset]; rfl
    rw [hset] at h
    rcases h with ⟨r, hr, hcontains⟩ | ⟨v, hv, hplace⟩
    · rw [← hranges] at hr
      exact .inl ⟨r, hranges ▸ hr, Bounds.contains_rounded
        (fun v hv => hops (some v) (mem_operands hr hv)) (hclear r hr) hcontains⟩
    · have hsome := hops v (List.mem_append_right _ (hvalues ▸ hv))
      cases v with
      | none => cases hplace
      | some v => exact .inr ⟨some v, hv, Value.rounded?_of_exact hplace hsome⟩

/-- A number of at most 53 binary digits is the magnitude of a double. -/
theorem FiniteDouble.exists_magnitude_eq (negative : Bool) {n s : Nat} (hn : n ≤ 2 ^ 53)
    (hlow : 53 ≤ s) (hhigh : s < 2045) :
    ∃ x : FiniteDouble, x.negative = negative ∧ x.magnitude = n * 2 ^ s := by
  rcases Nat.eq_or_lt_of_le hn with rfl | hlt
  · refine ⟨⟨negative, 2 ^ 52, s + 1, by decide, hhigh, .inr (Nat.le_refl _)⟩, rfl, ?_⟩
    show 2 ^ 52 * 2 ^ (s + 1) = 2 ^ 53 * 2 ^ s
    rw [pow_succ 2 s]
    omega
  · have hbits := bitLength_le_iff.mpr hlt
    cases hb : bitLength n with
    | zero =>
      have hzero : n = 0 := by
        have := bitLength_le_iff.mp hb.le
        omega
      exact ⟨.zero negative, rfl, by rw [hzero, Nat.zero_mul]; exact Nat.zero_mul _⟩
    | succ b =>
      have hle : 2 ^ b ≤ n := two_pow_le_of_bitLength hb
      have htop : n < 2 ^ (b + 1) := bitLength_le_iff.mp hb.le
      obtain ⟨k, hk⟩ : ∃ k, 52 = b + k := ⟨52 - b, by omega⟩
      obtain ⟨j, hj⟩ : ∃ j, s = k + j := ⟨s - k, by omega⟩
      have hpos : 0 < 2 ^ k := Nat.two_pow_pos k
      refine ⟨⟨negative, n * 2 ^ k, j, ?_, by omega, .inr ?_⟩, rfl, ?_⟩
      · have hsum : 53 = b + 1 + k := by omega
        rw [Nat.pow_eq, hsum, pow_add 2 (b + 1)]
        exact Nat.mul_lt_mul_of_pos_right htop hpos
      · rw [Nat.pow_eq, hk, pow_add]
        exact Nat.mul_le_mul_right _ hle
      · show n * 2 ^ k * 2 ^ j = n * 2 ^ s
        rw [hj, pow_add, Nat.mul_assoc]

/-- Whole numbers of at most 53 binary digits are doubles. -/
theorem FiniteDouble.exists_units_eq {n : Int} (h : n.natAbs ≤ 2 ^ 53) :
    ∃ x : FiniteDouble, x.units = n * unitsPerOne := by
  obtain ⟨s, hs, hunits⟩ := exists_unitsPerOne_eq
  obtain ⟨x, hsign, hmagnitude⟩ := exists_magnitude_eq (decide (n < 0)) h
    (s := s) (by omega) (by omega)
  refine ⟨x, ?_⟩
  rw [x.units_eq, hsign, hmagnitude, hunits, Double.int_mul_eq]
  simp only [decide_eq_true_eq]

theorem Value.rounded?_of_small {n : Int} (h : n.natAbs ≤ 2 ^ 53)
    (hm : (Value.int n).rounded?.isSome) : (Value.int n).rounded? = (Value.int n).units? := by
  obtain ⟨x, hx⟩ := FiniteDouble.exists_units_eq h
  have hexact : (Value.int n).units? = some x.units := congrArg some hx.symm
  rw [hexact, rounded?_of_exact hexact hm]

/-- A condition on doubles is that of the domain with all numbers rounded, in every position. A
double that the domain admits is lost only where an excluded whole number is rounded onto it, and no
whole number of at most 53 binary digits is moved. -/
theorem SqlStyle.condition_rounds {q : Char} (column : String) (dialect : Dialect)
    (hq : IsQuote q) {d : Domain} (hset : d.set.kind = .some)
    (hops : ∀ v ∈ d.operands, (v.bind Value.toDouble?).isSome) :
    ∃ text f, condition ⟨dialect, q.toString⟩ column d .double = .ok (some text) ∧
      condition? q text = some f ∧
      ∀ row : Row, (∀ x, row column = some x → x.Fits .double) →
        (f.Holds row.test ↔ d.Admits Value.rounded? ((row column).bind Datum.units?)) ∧
        ∀ x, row column = some (.double x) → d.Admits Value.units? (some x.units) →
          (f.Holds row.test ∨ ∃ r ∈ d.set.ranges, ∃ n, r.Strict (.int n) ∧
            (Value.int n).rounded? = some x.units ∧ n * unitsPerOne ≠ x.units) ∧
          ((∀ r ∈ d.set.ranges, ∀ n, r.Strict (.int n) → n.natAbs ≤ 2 ^ 53) →
            f.Holds row.test) := by
  obtain ⟨c, hc, hnone, hread⟩ := condition_placed column (.inl rfl) hq fun v hv =>
    Literal.accepts_of_toDouble? (hops v hv)
  rw [← condition_double dialect hset] at hc
  have hsome : c ≠ none := by
    intro hnil
    rcases hnone.mp hnil with hall | hpush
    · rw [Domain.isAll_eq_false hset] at hall
      cases hall
    · cases hpush
  obtain ⟨text, rfl⟩ := Option.ne_none_iff_exists'.mp hsome
  obtain ⟨f, hf, hholds⟩ := hread text rfl
  have hrounded : ∀ v ∈ d.operands, (v.bind Value.rounded?).isSome := fun v hv =>
    Value.isSome_rounded? (hops v hv)
  refine ⟨text, f, hc, hf, fun row hfit => ?_⟩
  have hiff := hholds (Condition.placed_rounded hq hfit) hrounded
  refine ⟨hiff, fun x hx hadmits => ?_⟩
  have hkeeps (hclear : ∀ r ∈ d.set.ranges, r.Clear x) : f.Holds row.test := by
    rw [hiff, hx]
    exact Domain.admits_rounded hrounded hclear hadmits
  constructor
  · by_contra hlost
    rw [not_or] at hlost
    refine hlost.1 (hkeeps fun r hr n hv hm => ?_)
    by_contra hne
    exact hlost.2 ⟨r, hr, n, hv, hm, hne⟩
  · intro hsmall
    refine hkeeps fun r hr n hv hm => ?_
    rw [Value.rounded?_of_small (hsmall r hr n hv) (hm ▸ rfl)] at hm
    exact Option.some.inj hm

/-- A whole number that is halfway between two doubles, as a bound that belongs to the range. -/
theorem SqlStyle.condition_rounds_halfway :
    let range : Range := ⟨.greaterThanOrEqual (some (.int 9007199254740995)), rfl⟩
    let domain : Domain := ⟨.some [range] [some (.double (.finite (.zero true)))] (.inl (by simp)),
      false⟩
    let x : FiniteDouble := ⟨false, 4503599627370498, 1075, by decide, by decide, by decide⟩
    let row : Row := fun _ => some (.double x)
    domain.Admits Value.units? (some x.units) ∧
      ∃ text f, condition ⟨.generic, "`"⟩ "X" domain .double = .ok (some text) ∧
        condition? '`' text = some f ∧ f.Holds row.test := by
  intro range domain x row
  have hops : ∀ v ∈ domain.operands, (v.bind Value.toDouble?).isSome := by decide +kernel
  have habove : 9007199254740995 * (unitsPerOne : Int) < x.units := by decide +kernel
  have hadmits : domain.Admits Value.units? (some x.units) := by
    refine .inl ⟨range, by simp, fun low hlow => ?_, fun high hhigh => by cases hhigh⟩
    obtain rfl := Option.some.inj hlow
    exact ⟨_, rfl, .inl habove⟩
  obtain ⟨text, f, hc, hf, hrows⟩ :=
    condition_rounds "X" .generic (q := '`') (.inr rfl) rfl hops
  have hfit : ∀ y, row "X" = some y → y.Fits .double := by
    rintro y ⟨⟩
    rfl
  refine ⟨hadmits, text, f, hc, hf, ((hrows row hfit).2 x rfl hadmits).2 ?_⟩
  intro r hr n hstrict
  obtain rfl := List.mem_singleton.mp hr
  rcases hstrict with ⟨-, hexcluded⟩ | ⟨hhigh, -⟩
  · cases hexcluded
  · cases hhigh

/-- The double that a whole number below it is rounded to is lost when the number is excluded. -/
theorem SqlStyle.condition_loses_double :
    let range : Range := ⟨.greaterThan (some (.int 9007199254740995)), rfl⟩
    let domain : Domain := ⟨.some [range] [] (.inl (by simp)), false⟩
    let x : FiniteDouble := ⟨false, 4503599627370498, 1075, by decide, by decide, by decide⟩
    let row : Row := fun _ => some (.double x)
    domain.Admits Value.units? (some x.units) ∧
      ∃ f, condition ⟨.generic, "\""⟩ "X" domain .double =
          .ok (some "\"X\" > 9007199254740996.0") ∧
        condition? '"' "\"X\" > 9007199254740996.0" = some f ∧ ¬ f.Holds row.test := by
  intro range domain x row
  have hbelow : 9007199254740995 * (unitsPerOne : Int) < x.units := by decide +kernel
  have hrounded : (Value.int 9007199254740995).rounded? = some x.units := by decide +kernel
  have hadmits : domain.Admits Value.units? (some x.units) := by
    refine .inl ⟨range, by simp, fun low hlow => ?_, fun high hhigh => by cases hhigh⟩
    obtain rfl := Option.some.inj hlow
    exact ⟨_, rfl, .inl hbelow⟩
  have hcompiled : condition ⟨.generic, "\""⟩ "X" domain .double =
      .ok (some "\"X\" > 9007199254740996.0") := by decide +kernel
  obtain ⟨text, f, hc, hf, hrows⟩ :=
    condition_rounds "X" .generic (q := '"') (.inl rfl) (d := domain) rfl (by decide +kernel)
  obtain rfl := Option.some.inj (Except.ok.inj (hc.symm.trans hcompiled))
  have hfit : ∀ y, row "X" = some y → y.Fits .double := by
    rintro y ⟨⟩
    rfl
  refine ⟨hadmits, f, hcompiled, hf, fun hholds => ?_⟩
  rcases (hrows row hfit).1.mp hholds with ⟨r, hr, hcontains⟩ | ⟨v, hv, -⟩
  · obtain rfl := List.mem_singleton.mp hr
    obtain ⟨l, hl, hlt | ⟨hincluded, -⟩⟩ := hcontains.1 _ rfl
    · obtain rfl := Option.some.inj (hl.symm.trans hrounded)
      exact Int.lt_irrefl _ hlt
    · cases hincluded
  · cases hv

end Pushdown
