import Pushdown.Proofs.ConditionText
import Pushdown.Proofs.Operands

/-!
The rows that conditions select. A condition holds of a row just if the domain admits what the
column holds, where timestamps in the domain count for the start of their second.
-/
namespace Pushdown

open Sql

/-- What the literal of a value spells in a column of a type. -/
def Value.spelled? (type : LogicalType) (v : Value) : Option Datum :=
  (v.datum? type).map Datum.wholeSecond

/-- What the tests of a column do to a row when values are placed on an order, and the cell with
them. A comparison holds just if the cell is related to the place of the value, and values that are
the same have one place. -/
structure Condition.Placed {α : Type} [LT α] (q : Char) (column : String) (dialect : Dialect)
    (type : LogicalType) (row : Row) (place : Value → Option α) (cell : Option α) : Prop where
  isSome : cell.isSome = (row column).isSome
  holds : ∀ {op : Comparison} {v : Value} {t : Test}, (place v).isSome →
    comparison column dialect type op (some v) = .ok t →
      (row.test (t.atom q column) = .holds ↔
        ∃ x, cell = some x ∧ ∃ l, place v = some l ∧ Comparison.Relates op x l)
  same : ∀ {v w : Value} {l : α}, v.same w = true → place v = some l → (place w).isSome →
    place w = some l
  asymm : ∀ {v : Value} {l x : α}, place v = some l → cell = some x → l < x → ¬ x < l

section
variable {column : String} {dialect : Dialect} {type : LogicalType} {q : Char} {row : Row}

section
variable {α : Type} [LT α] {place : Value → Option α} {cell : Option α}

namespace Condition.Placed

variable (h : Placed q column dialect type row place cell)
include h

theorem isNull_holds : row.test (Test.isNull.atom q column) = .holds ↔ cell = none := by
  have hcell := h.isSome
  rw [Test.atom, Row.test, Row.datum?, Truth.ofBool_eq_holds]
  cases cell <;> cases hrow : row column <;> simp_all

theorem isNotNull_holds :
    row.test (Test.isNotNull.atom q column) = .holds ↔ ∃ x, cell = some x := by
  have hcell := h.isSome
  rw [Test.atom, Row.test, Row.datum?, Truth.ofBool_eq_holds, ← hcell, Option.isSome_iff_exists]

/-- The tests of a range hold just of the cells within its bounds. -/
theorem rangeTests_hold {r : Range} {tests : List Test} (hops : ∀ v ∈ r.operands, (place v).isSome)
    (ht : rangeTests column dialect type r = .ok tests) :
    (∀ t ∈ tests, row.test (t.atom q column) = .holds) ↔
      ∃ x, cell = some x ∧ r.Contains place x := by
  obtain ⟨lows, highs, hlows, hhighs, rfl⟩ := rangeTests_eq_ok.mp ht
  have hlow := lowTests_eq_ok.mp hlows
  have hhigh := highTests_eq_ok.mp hhighs
  by_cases hempty : lows ++ highs = []
  · obtain ⟨rfl, rfl⟩ := List.append_eq_nil_iff.mp hempty
    rw [List.forall₂_nil_right_iff, Option.toList_eq_nil_iff] at hlow hhigh
    have hall (x : α) : r.Contains place x := by
      simp [Bounds.Contains, hlow, hhigh]
    rw [List.nil_append, List.isEmpty_nil, if_pos rfl, List.forall_mem_singleton,
      h.isNotNull_holds]
    exact exists_congr fun x => (and_iff_left (hall x)).symm
  · have hlowHolds := forall_iff_of_forall₂ hlow fun v hv t ht =>
      h.holds (hops v (by simp [Bounds.operands, hv])) ht
    have hhighHolds := forall_iff_of_forall₂ hhigh fun v hv t ht =>
      h.holds (hops v (by simp [Bounds.operands, hv])) ht
    rw [if_neg (by simpa using hempty), List.forall_mem_append, hlowHolds, hhighHolds]
    cases hcell : cell with
    | none =>
      simp only [reduceCtorEq, false_and, exists_false, iff_false, not_and]
      intro hnone hnone'
      have hnil := List.eq_nil_iff_forall_not_mem.mpr hnone
      have hnil' := List.eq_nil_iff_forall_not_mem.mpr hnone'
      rw [hnil, List.forall₂_nil_left_iff] at hlow
      rw [hnil', List.forall₂_nil_left_iff] at hhigh
      exact hempty (by rw [hlow, hhigh]; rfl)
    | some x =>
      simp only [Option.some.injEq, exists_eq_left', Option.mem_toList, Comparison.relates_low,
        Comparison.relates_high]
      exact Iff.rfl

/-- The test for a value holds just of the cells at its place. -/
theorem valueTests_hold {v : Option Value} {tests : List Test} (hv : (v.bind place).isSome)
    (ht : valueTests column dialect type v = .ok tests) :
    (∀ t ∈ tests, row.test (t.atom q column) = .holds) ↔
      ∃ x, cell = some x ∧ v.bind place = some x := by
  obtain ⟨t, htest, rfl⟩ := valueTests_eq_ok.mp ht
  cases v with
  | none => cases hv
  | some v =>
    rw [List.forall_mem_singleton, h.holds hv htest]
    refine exists_congr fun x => and_congr_right fun _ => ?_
    exact ⟨fun ⟨l, hl, heq⟩ => hl.trans (congrArg some heq.symm), fun hx => ⟨x, hx, rfl⟩⟩

/-- A domain contains what its spans contain and what its points stand for. -/
theorem contains_iff {d : Domain} {ranges values inhabited} {x : α}
    (hset : d.set = .some ranges values inhabited)
    (hops : ∀ v ∈ d.operands, (v.bind place).isSome) (hx : cell = some x) :
    d.set.Contains place x ↔
      (∃ r ∈ d.spans, r.Contains place x) ∨ ∃ v ∈ d.points, v.bind place = some x := by
  have hranges : d.set.ranges = ranges := by rw [hset]; rfl
  have hsingle {r : Range} {v : Value} (hr : r ∈ ranges) (hv : r.single? = some v) :
      r.Contains place x ↔ place v = some x := by
    have hplaced {w : Value} (hw : w ∈ r.operands) : (place w).isSome :=
      hops (some w) (Domain.mem_operands (hranges ▸ hr) hw)
    have hlow := (Bounds.single?_eq_some hv).1
    obtain ⟨l, hl⟩ := Option.isSome_iff_exists.mp
      (hplaced (w := v) (by simp [Bounds.operands, hlow]))
    rw [Bounds.contains_single hv hl]
    · rw [hl, Option.some.injEq]
    · intro high hhigh hsame
      exact h.same hsame hl (hplaced (by simp [Bounds.operands, hhigh]))
    · exact h.asymm hl hx
  rw [hset]
  simp only [ValueSet.Contains, Domain.spans, Domain.points, hset, ValueSet.ranges,
    ValueSet.values]
  constructor
  · rintro (⟨r, hr, hcontains⟩ | ⟨v, hv, hplace⟩)
    · cases hv : r.single? with
      | none => exact .inl ⟨r, by simp [hr, hv], hcontains⟩
      | some v =>
        refine .inr ⟨some v, ?_, (hsingle hr hv).mp hcontains⟩
        exact List.mem_append_left _ (List.mem_map.mpr ⟨v, List.mem_filterMap.mpr ⟨r, hr, hv⟩, rfl⟩)
    · exact .inr ⟨v, List.mem_append_right _ hv, hplace⟩
  · rintro (⟨r, hr, hcontains⟩ | ⟨v, hv, hplace⟩)
    · exact .inl ⟨r, (List.mem_filter.mp hr).1, hcontains⟩
    · rcases List.mem_append.mp hv with hv | hv
      · obtain ⟨w, hw, rfl⟩ := List.mem_map.mp hv
        obtain ⟨r, hr, hw⟩ := List.mem_filterMap.mp hw
        exact .inl ⟨r, hr, (hsingle hr hw).mpr hplace⟩
      · exact .inr ⟨v, hv, hplace⟩

end Condition.Placed

theorem Condition.exists_alternatives {disjuncts : List (List Test)} {P : Atom → Prop} :
    (∃ atoms ∈ (anyOf disjuncts).alternatives q column, ∀ a ∈ atoms, P a) ↔
      ∃ tests ∈ disjuncts, ∀ t ∈ tests, P (t.atom q column) := by
  simp [alternatives]

/-- A condition holds just of the rows whose cell the domain admits. -/
theorem Condition.Compiled.holds_iff {d : Domain} {c : Condition}
    (hc : Compiled column dialect type d c) (h : Placed q column dialect type row place cell)
    (hops : ∀ v ∈ d.operands, (v.bind place).isSome) :
    (∃ atoms ∈ c.alternatives q column, ∀ a ∈ atoms, row.test a = .holds) ↔
      d.Admits place cell := by
  have hnulls : (∃ tests ∈ if d.nullAllowed then [[Test.isNull]] else [],
      ∀ t ∈ tests, row.test (t.atom q column) = .holds) ↔
        d.nullAllowed = true ∧ cell = Option.none := by
    split <;> simp [*, h.isNull_holds]
  cases hc with
  | none hset =>
    have hadmits : d.Admits place cell ↔ d.nullAllowed = true ∧ cell = Option.none := by
      cases cell <;> simp [Domain.Admits, hset, ValueSet.Contains]
    rw [hadmits, ← hnulls]
    split
    · exact exists_alternatives
    · have hnever : row.test (.compare (.constant (.number ['1'])) .eq (.number ['0'])) = .fails :=
        rfl
      simp [alternatives, hnever]
  | notNull hset hnull =>
    have hadmits : d.Admits place cell ↔ ∃ x, cell = some x := by
      cases cell <;> simp [Domain.Admits, hset, hnull, ValueSet.Contains]
    rw [exists_alternatives, hadmits, ← h.isNotNull_holds]
    simp
  | @listed ranges values inhabited spanTests pointTests hset hspans hpoints =>
    have hspan := exists_iff_of_forall₂ hspans fun r hr tests ht =>
      h.rangeTests_hold
        (fun v hv => hops _ (Domain.mem_operands (List.mem_filter.mp hr).1 hv)) ht
    have hpoint := exists_iff_of_forall₂ hpoints fun v hv tests ht =>
      h.valueTests_hold (hops v (Domain.mem_operands_of_points hv)) ht
    rw [exists_alternatives]
    simp only [List.mem_append, or_and_right, exists_or]
    rw [hspan, hpoint, hnulls]
    cases hcell : cell with
    | none => simp [Domain.Admits]
    | some x =>
      rw [Domain.Admits, h.contains_iff hset hops hcell]
      simp

end

theorem Value.means_of_spelled? {v : Value} {l : Datum} (h : v.spelled? type = some l) :
    ∃ d, v.Means type d ∧ d.wholeSecond = l := by
  obtain ⟨d, hdatum, hl⟩ := Option.map_eq_some_iff.mp h
  exact ⟨d, means_of_datum? hdatum, hl⟩

/-- Data of the column's type are related to what literals spell. -/
theorem Condition.placed_spelled (hd : dialect.Known) (hq : IsQuote q)
    (hfit : ∀ x, row column = some x → x.Fits type) :
    Placed q column dialect type row (Value.spelled? type) (row column) where
  isSome := rfl
  holds := by
    intro op v t hv h
    obtain ⟨l, hspelled⟩ := Option.isSome_iff_exists.mp hv
    obtain ⟨d, hmeans, rfl⟩ := Value.means_of_spelled? hspelled
    obtain ⟨literal, hrender, rfl⟩ := comparison_eq_ok.mp h
    obtain ⟨text, k, hrender', hreads, hbeside⟩ := Literal.render_means hd hq hmeans
    obtain rfl := Except.ok.inj (hrender.symm.trans hrender')
    rw [Test.atom, Constant.ofLiteral_eq hreads]
    cases hrow : row column with
    | none => simp [Row.test, Row.datum?, hrow]
    | some x =>
      have hx := hfit x hrow
      rw [Row.test_compare hrow (hbeside x hx) hx hmeans.wholeSecond_fits hmeans.ne_double]
      simp [hspelled]
  same := by
    intro v w l hsame hv hw
    obtain ⟨m, hw⟩ := Option.isSome_iff_exists.mp hw
    obtain ⟨d, hmeans, rfl⟩ := Value.means_of_spelled? hv
    obtain ⟨e, hmeans', rfl⟩ := Value.means_of_spelled? hw
    rw [hw, hmeans.eq_of_same hmeans' hsame]
  asymm := by
    intro v l x hv hx
    obtain ⟨d, hmeans, rfl⟩ := Value.means_of_spelled? hv
    exact Datum.lt_asymm hmeans.wholeSecond_fits (hfit x hx) hmeans.ne_double

/-! Values that mean something in their column compile. -/

variable (column)

theorem Literal.accepts_of_datum? (hd : dialect.Known) {v : Option Value}
    (hv : (v.bind (Value.datum? type)).isSome) : Accepts column dialect type v := by
  cases v with
  | none => cases hv
  | some v =>
    obtain ⟨d, hdatum⟩ := Option.isSome_iff_exists.mp hv
    obtain ⟨literal, k, hrender, -, -⟩ :=
      render_means hd (.inl rfl) (Value.means_of_datum? hdatum)
    exact ⟨literal, hrender⟩

theorem Domain.isAll_eq_false {d : Domain} (h : d.set.kind = .some) : d.isAll = false := by
  cases hset : d.set <;> simp_all [isAll, ValueSet.kind]

theorem Condition.exists_ofDomain {d : Domain}
    (haccepts : ∀ v ∈ d.operands, Literal.Accepts column dialect type v) :
    ∃ c, ofDomain column dialect type d = .ok c := by
  cases hpush : type.isPushable with
  | false => exact ⟨none, by simp [ofDomain, hpush]⟩
  | true =>
    cases hset : d.set with
    | some ranges values inhabited =>
      obtain ⟨c, hc⟩ := (exists_ofDomain_iff hset hpush).mpr fun v hv =>
        haccepts v (Domain.mem_operands_of_tested hv)
      exact ⟨some c, hc⟩
    | _ =>
      unfold ofDomain
      rw [hset]
      split <;> exact ⟨_, rfl⟩

/-- Whatever a domain compiles to is read back as a condition that holds just of the rows whose cell
the domain admits, wherever values are placed. -/
theorem SqlStyle.condition_placed (hd : dialect.Known) (hq : IsQuote q) {d : Domain}
    (haccepts : ∀ v ∈ d.operands, Literal.Accepts column dialect type v) :
    ∃ c, condition ⟨dialect, q.toString⟩ column d type = .ok c ∧
      (c = none ↔ d.isAll = true ∨ type.isPushable = false) ∧
      ∀ text, c = some text → ∃ f, condition? q text = some f ∧
        ∀ {α : Type} [LT α] {place : Value → Option α} {row : Row} {cell : Option α},
          Condition.Placed q column dialect type row place cell →
          (∀ v ∈ d.operands, (v.bind place).isSome) →
            (f.Holds row.test ↔ d.Admits place cell) := by
  obtain ⟨c, hc⟩ := Condition.exists_ofDomain column haccepts
  refine ⟨c.map (·.text dialect (Text.quoteIdentifier q.toString column)), ?_, ?_⟩
  · rw [condition, hc]
    rfl
  · rcases Condition.ofDomain_eq_ok hc with ⟨hskip, rfl⟩ | ⟨hall, hpush, c, rfl, hcompiled⟩
    · refine ⟨by simpa using hskip, ?_⟩
      intro text htext
      cases htext
    · refine ⟨by simp [hall, hpush], ?_⟩
      intro text htext
      obtain rfl := Option.some.inj htext
      refine ⟨_, (hcompiled.readable hd hq).condition?_text column hd hq, ?_⟩
      intro α _ place row cell hplaced hops
      rw [holds_alternatives]
      exact hcompiled.holds_iff hplaced hops

/-- Whatever a domain of meaningful values compiles to is read back as a condition that holds just
of the rows whose cell the domain admits. -/
theorem SqlStyle.condition_spec (hd : dialect.Known) (hq : IsQuote q) {d : Domain}
    (hops : ∀ v ∈ d.operands, (v.bind (Value.datum? type)).isSome) :
    ∃ c, condition ⟨dialect, q.toString⟩ column d type = .ok c ∧
      (c = none ↔ d.isAll = true ∨ type.isPushable = false) ∧
      ∀ text, c = some text → ∃ f, condition? q text = some f ∧
        ∀ row : Row, (∀ x, row column = some x → x.Fits type) →
          (f.Holds row.test ↔ d.Admits (Value.spelled? type) (row column)) := by
  obtain ⟨c, hc, hnone, hread⟩ := condition_placed column hd hq fun v hv =>
    Literal.accepts_of_datum? column hd (hops v hv)
  refine ⟨c, hc, hnone, fun text htext => ?_⟩
  obtain ⟨f, hf, hholds⟩ := hread text htext
  refine ⟨f, hf, fun row hfit => hholds (Condition.placed_spelled hd hq hfit) fun v hv => ?_⟩
  have hsome := hops v hv
  cases v with
  | none => cases hsome
  | some v => exact Option.isSome_map.trans hsome

theorem Value.spelled?_eq_datum? (ht : type ≠ .timestamp) (v : Value) :
    v.spelled? type = v.datum? type := by
  unfold spelled?
  cases hv : v.datum? type with
  | none => rfl
  | some d =>
    cases means_of_datum? hv with
    | instant hlow hhigh => exact absurd rfl ht
    | _ => rfl

/-- Domains of integers, text, truth values or days select just the rows that they admit. Only the
domain that constrains nothing has no condition. -/
theorem SqlStyle.condition_selects (hd : dialect.Known)
    (ht : type.kind ∈ [TypeKind.bigint, .varchar, .boolean, .date]) {d : Domain}
    (hops : ∀ v ∈ d.operands, (v.bind (Value.datum? type)).isSome) :
    ∃ c, condition ⟨dialect, "\""⟩ column d type = .ok c ∧ (c = none ↔ d.isAll = true) ∧
      ∀ text, c = some text → ∃ f, condition? '"' text = some f ∧
        ∀ row : Row, (∀ x, row column = some x → x.Fits type) →
          (f.Holds row.test ↔ d.Admits (Value.datum? type) (row column)) := by
  have hspelled : Value.spelled? type = Value.datum? type := by
    refine funext (Value.spelled?_eq_datum? ?_)
    rintro rfl
    exact absurd ht (by decide)
  have hpush : type.isPushable = true := by
    unfold LogicalType.isPushable
    revert ht
    cases type.kind <;> decide
  obtain ⟨c, hc, hnone, hread⟩ := condition_spec column hd (.inl rfl) hops
  rw [hspelled] at hread
  exact ⟨c, hc, by simpa [hpush] using hnone, hread⟩

/-- A range and a value with quotes in them, on a column with a quote in its name. -/
theorem SqlStyle.condition_selects_quotes :
    let range : Range := ⟨⟨some (.text "a'"), true, some (.text "b"), false⟩, rfl⟩
    let domain : Domain := ⟨.some [range] [some (.text "''")] (.inl (by simp)), true⟩
    ∃ text f, condition ⟨Oracle.dialect, "\""⟩ "x\"y" domain (.varchar none) = .ok (some text) ∧
      condition? '"' text = some f ∧
      ∀ row : Row, (∀ x, row "x\"y" = some x → x.Fits (.varchar none)) →
        (f.Holds row.test ↔ domain.Admits (Value.datum? (.varchar none)) (row "x\"y")) := by
  intro range domain
  obtain ⟨c, hc, hnone, hread⟩ :=
    @condition_selects "x\"y" Oracle.dialect (.varchar none) (.inr rfl) (by decide) domain
      (by decide)
  cases c with
  | none => exact absurd (hnone.mp rfl) (by decide)
  | some text =>
    obtain ⟨f, hf, hholds⟩ := hread text rfl
    exact ⟨text, f, hc, hf, hholds⟩

end

end Pushdown
