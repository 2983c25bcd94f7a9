import Pushdown.Proofs.Condition
import Pushdown.Proofs.Literal

/-!
Which of the values of a domain have to fit their column. A condition is made from both bounds of a
range, except that of a single value only the low bound is written.
-/
namespace Pushdown

/-- The kinds of values. -/
inductive OperandKind
  | bool | int | double | text | bytes
  deriving DecidableEq

def Value.kind : Value → OperandKind
  | .bool _ => .bool
  | .int _ => .int
  | .double _ => .double
  | .text _ => .text
  | .bytes _ => .bytes

/-- The values that the condition of a domain is made from. -/
def Domain.tested (d : Domain) : List (Option Value) :=
  d.spans.flatMap (·.operands.map some) ++ d.points

/-- The two bounds of each single value are of one kind. -/
def Domain.Uniform (d : Domain) : Prop :=
  ∀ r ∈ d.set.ranges, ∀ low high, r.single? = some low → r.high = some high → low.kind = high.kind

variable {column : String} {dialect : Dialect} {type : LogicalType} {d : Domain} {v : Option Value}

namespace Literal

/-- The value has a literal in a column of the type. -/
def Accepts (column : String) (dialect : Dialect) (type : LogicalType) (value : Option Value) :
    Prop :=
  ∃ text, render column value dialect type = .ok text

theorem accepts_double {x : Double} :
    Accepts column dialect type (some (.double x)) ↔ type = .double ∧ ∃ y, x = .finite y := by
  constructor
  · rintro ⟨text, h⟩
    cases type with
    | double =>
      cases x with
      | finite y => exact ⟨rfl, y, rfl⟩
      | _ => cases h
    | _ => cases h
  · rintro ⟨rfl, y, rfl⟩
    exact ⟨y.text, rfl⟩

/-- Values of one kind that count as the same have literals in the same columns. -/
theorem accepts_congr {v w : Value} (hkind : v.kind = w.kind) (hsame : v.same w = true) :
    Accepts column dialect type (some v) ↔ Accepts column dialect type (some w) := by
  cases v <;> cases w <;> cases hkind
  case bool.bool a b => rw [Value.eq_of_same_bool hsame]
  case int.int m n => rw [Value.eq_of_same_int hsame]
  case text.text s t =>
    have heq : s = t := of_decide_eq_true hsame
    rw [heq]
  case bytes.bytes s t =>
    have heq : s = t := of_decide_eq_true hsame
    rw [heq]
  case double.double x y =>
    -- Zeros of both signs are the same, but each is finite.
    have hfinite : (∃ z, x = .finite z) ↔ ∃ z, y = .finite z := by
      cases x with
      | nan => cases hsame
      | infinity a =>
        cases y with
        | finite z => cases a <;> cases hsame
        | _ => simp
      | finite z =>
        cases y with
        | nan => cases hsame
        | infinity b => cases b <;> cases hsame
        | finite _ => simp
    rw [accepts_double, accepts_double, hfinite]

end Literal

namespace Condition

theorem exists_comparison_iff (op : Comparison) :
    (∃ t, comparison column dialect type op v = .ok t) ↔
      Literal.Accepts column dialect type v := by
  simp only [comparison_eq_ok, Literal.Accepts]
  constructor
  · rintro ⟨t, text, h, -⟩
    exact ⟨text, h⟩
  · rintro ⟨text, h⟩
    exact ⟨_, text, h, rfl⟩

theorem exists_valueTests_iff :
    (∃ tests, valueTests column dialect type v = .ok tests) ↔
      Literal.Accepts column dialect type v := by
  rw [← exists_comparison_iff .eq]
  simp only [valueTests_eq_ok]
  constructor
  · rintro ⟨tests, t, h, -⟩
    exact ⟨t, h⟩
  · rintro ⟨t, h⟩
    exact ⟨_, t, h, rfl⟩

theorem exists_rangeTests_iff {r : Range} :
    (∃ tests, rangeTests column dialect type r = .ok tests) ↔
      ∀ v ∈ r.operands, Literal.Accepts column dialect type (some v) := by
  have hlow : (∃ tests, lowTests column dialect type r = .ok tests) ↔
      ∀ v ∈ r.low.toList, Literal.Accepts column dialect type (some v) := by
    simp only [lowTests_eq_ok, exists_forall₂_iff, exists_comparison_iff]
  have hhigh : (∃ tests, highTests column dialect type r = .ok tests) ↔
      ∀ v ∈ r.high.toList, Literal.Accepts column dialect type (some v) := by
    simp only [highTests_eq_ok, exists_forall₂_iff, exists_comparison_iff]
  rw [Bounds.operands, List.forall_mem_append, ← hlow, ← hhigh]
  simp only [rangeTests_eq_ok]
  constructor
  · rintro ⟨tests, lows, highs, hlows, hhighs, -⟩
    exact ⟨⟨lows, hlows⟩, highs, hhighs⟩
  · rintro ⟨⟨lows, hlows⟩, highs, hhighs⟩
    exact ⟨_, lows, highs, hlows, hhighs, rfl⟩

/-- A domain of listed ranges and values compiles just if all that is tested can be written. -/
theorem exists_ofDomain_iff {ranges values inhabited} (hset : d.set = .some ranges values inhabited)
    (hpush : type.isPushable = true) : (∃ c, ofDomain column dialect type d = .ok (some c)) ↔
      ∀ v ∈ d.tested, Literal.Accepts column dialect type v := by
  have hall : d.isAll = false := by simp [Domain.isAll, hset]
  have hspans : (∃ tests, d.spans.mapM (rangeTests column dialect type) = .ok tests) ↔
      ∀ v ∈ d.spans.flatMap (·.operands.map some), Literal.Accepts column dialect type v := by
    simp only [mapM_eq_ok, exists_forall₂_iff, exists_rangeTests_iff, List.forall_mem_flatMap,
      List.forall_mem_map]
  have hpoints : (∃ tests, d.points.mapM (valueTests column dialect type) = .ok tests) ↔
      ∀ v ∈ d.points, Literal.Accepts column dialect type v := by
    simp only [mapM_eq_ok, exists_forall₂_iff, exists_valueTests_iff]
  rw [Domain.tested, List.forall_mem_append, ← hspans, ← hpoints]
  simp only [ofDomain, hall, hpush, Domain.spans, Domain.points, hset, ValueSet.ranges,
    ValueSet.values, Bool.not_true, Bool.or_self, Bool.false_eq_true, ↓reduceIte, bind_eq_ok]
  constructor
  · rintro ⟨c, spanTests, hspan, pointTests, hpoint, -⟩
    exact ⟨⟨spanTests, hspan⟩, pointTests, hpoint⟩
  · rintro ⟨⟨spanTests, hspan⟩, pointTests, hpoint⟩
    exact ⟨_, spanTests, hspan, pointTests, hpoint, rfl⟩

end Condition

namespace Domain

theorem mem_operands {r : Range} {v : Value} (hr : r ∈ d.set.ranges) (hv : v ∈ r.operands) :
    some v ∈ d.operands := by
  refine List.mem_append_left _ (List.mem_flatMap.mpr ⟨r, hr, ?_⟩)
  exact List.mem_map.mpr ⟨v, hv, rfl⟩

theorem mem_operands_of_points (hv : v ∈ d.points) : v ∈ d.operands := by
  rcases List.mem_append.mp hv with hv | hv
  · obtain ⟨v, hsingle, rfl⟩ := List.mem_map.mp hv
    obtain ⟨r, hr, hsingle⟩ := List.mem_filterMap.mp hsingle
    have hlow := (Bounds.single?_eq_some hsingle).1
    exact mem_operands hr (by simp [Bounds.operands, hlow])
  · exact List.mem_append_right _ hv

theorem mem_operands_of_tested (hv : v ∈ d.tested) : v ∈ d.operands := by
  rcases List.mem_append.mp hv with hv | hv
  · obtain ⟨r, hr, hv⟩ := List.mem_flatMap.mp hv
    obtain ⟨w, hw, rfl⟩ := List.mem_map.mp hv
    exact mem_operands (List.mem_filter.mp hr).1 hw
  · exact mem_operands_of_points hv

theorem mem_points_of_single {r : Range} {low : Value} (hr : r ∈ d.set.ranges)
    (hsingle : r.single? = some low) : some low ∈ d.points :=
  List.mem_append_left _ (List.mem_map_of_mem (List.mem_filterMap.mpr ⟨r, hr, hsingle⟩))

/-- The high bounds of single values are all that no condition is made from. -/
theorem tested_or_high_of_mem_operands (hv : v ∈ d.operands) : v ∈ d.tested ∨
    ∃ r ∈ d.set.ranges, ∃ low high, r.single? = some low ∧ r.high = some high ∧ v = some high := by
  rcases List.mem_append.mp hv with hv | hv
  · obtain ⟨r, hr, hv⟩ := List.mem_flatMap.mp hv
    obtain ⟨w, hw, rfl⟩ := List.mem_map.mp hv
    cases hsingle : r.single? with
    | none =>
      have hspan : r ∈ d.spans := List.mem_filter.mpr ⟨hr, by simp [hsingle]⟩
      refine .inl (List.mem_append_left _ (List.mem_flatMap.mpr ⟨r, hspan, ?_⟩))
      exact List.mem_map_of_mem hw
    | some low =>
      rcases List.mem_append.mp hw with hlow | hhigh
      · rw [(Bounds.single?_eq_some hsingle).1] at hlow
        obtain rfl := Option.some.inj (Option.mem_toList.mp hlow)
        exact .inl (List.mem_append_right _ (mem_points_of_single hr hsingle))
      · exact .inr ⟨r, hr, low, w, hsingle, Option.mem_toList.mp hhigh, rfl⟩
  · exact .inl (List.mem_append_right _ (List.mem_append_right _ hv))

/-- With single values of one kind each, all operands can be written if the tested ones can. -/
theorem Uniform.accepts (h : d.Uniform)
    (ht : ∀ v ∈ d.tested, Literal.Accepts column dialect type v) (hv : v ∈ d.operands) :
    Literal.Accepts column dialect type v := by
  rcases tested_or_high_of_mem_operands hv with hv | ⟨r, hr, low, high, hsingle, hhigh, rfl⟩
  · exact ht v hv
  · obtain ⟨-, -, -, other, hother, hsame⟩ := Bounds.single?_eq_some hsingle
    obtain rfl : other = high := Option.some.inj (hother.symm.trans hhigh)
    rw [← Literal.accepts_congr (h r hr low other hsingle hhigh) hsame]
    exact ht _ (List.mem_append_right _ (mem_points_of_single hr hsingle))

end Domain

namespace SqlStyle

theorem condition_eq_ok_some {s : SqlStyle} : (∃ text, s.condition column d type = .ok (some text)) ↔
    ∃ c, Condition.ofDomain column s.dialect type d = .ok (some c) := by
  constructor
  · rintro ⟨text, h⟩
    obtain ⟨c, hc, h⟩ := bind_eq_ok.mp h
    cases c with
    | none => cases h
    | some c => exact ⟨c, hc⟩
  · rintro ⟨c, hc⟩
    exact ⟨_, bind_eq_ok.mpr ⟨some c, hc, rfl⟩⟩

/-- A condition is made just if all that is tested can be written; otherwise there is an error. What
is not tested, the high bound of a single value, can be written too unless it is of another kind
than the low one. -/
theorem condition_checks (s : SqlStyle) (column : String) (hpush : type.isPushable = true)
    {ranges values inhabited} (hset : d.set = .some ranges values inhabited) :
    let compiles := ∃ text, s.condition column d type = .ok (some text)
    (compiles ↔ ∀ v ∈ d.tested, Literal.Accepts column s.dialect type v) ∧
      (¬compiles → ∃ fault, s.condition column d type = .error fault) ∧
      (d.Uniform → (compiles ↔ ∀ v ∈ d.operands, Literal.Accepts column s.dialect type v)) := by
  intro compiles
  have htested : compiles ↔ ∀ v ∈ d.tested, Literal.Accepts column s.dialect type v :=
    condition_eq_ok_some.trans (Condition.exists_ofDomain_iff hset hpush)
  refine ⟨htested, ?_, fun huniform => ?_⟩
  · intro hfails
    cases hc : Condition.ofDomain column s.dialect type d with
    | error fault => exact ⟨fault, by rw [condition, hc]; rfl⟩
    | ok c =>
      rcases Condition.ofDomain_eq_ok hc with ⟨hskip, -⟩ | ⟨-, -, condition, rfl, -⟩
      · simp [Domain.isAll, hset, hpush] at hskip
      · exact absurd (condition_eq_ok_some.mpr ⟨condition, hc⟩) hfails
  · rw [htested]
    exact ⟨fun h _ hv => huniform.accepts h hv, fun h v hv => h v (Domain.mem_operands_of_tested hv)⟩

/-- One domain of days, as a number and as text, and one with a truth value among the days. -/
theorem condition_checks_days :
    let day : Range := ⟨⟨some (.int 5), true, some (.int 5), true⟩, by decide +kernel⟩
    let mixed : Range := ⟨⟨some (.bool false), true, some (.int 5), false⟩, by decide +kernel⟩
    let days : Domain := ⟨.some [day] [some (.text " 7 ")] (.inl (by simp)), false⟩
    let other : Domain := ⟨.some [mixed] [] (.inl (by simp)), false⟩
    days.Uniform ∧
      (∃ text, condition ⟨.generic, "\""⟩ "D" days .date = .ok (some text)) ∧
      ∃ fault, condition ⟨.generic, "\""⟩ "D" other .date = .error fault := by
  intro day mixed days other
  have huniform : days.Uniform := by
    intro r hr low high hlow hhigh
    obtain rfl := List.mem_singleton.mp hr
    obtain ⟨hlow, -⟩ := Bounds.single?_eq_some hlow
    cases hlow
    cases hhigh
    rfl
  refine ⟨huniform, ?_, ?_⟩
  · obtain ⟨-, -, hcompiles⟩ := @condition_checks .date days ⟨.generic, "\""⟩ "D" rfl _ _ _ rfl
    refine (hcompiles huniform).mpr ?_
    have hmem : ∀ v ∈ days.operands, v = some (.int 5) ∨ v = some (.text " 7 ") := by
      simp [Domain.operands, Bounds.operands, days, day, ValueSet.ranges, ValueSet.values]
    intro v hv
    rcases hmem v hv with rfl | rfl
    · exact ⟨"DATE '1970-01-06'", by decide +kernel⟩
    · exact ⟨"DATE '1970-01-08'", by decide +kernel⟩
  · obtain ⟨htested, hfails, -⟩ :=
      @condition_checks .date other ⟨.generic, "\""⟩ "D" rfl _ _ _ rfl
    refine hfails fun hcompiles => ?_
    obtain ⟨text, htext⟩ := htested.mp hcompiles (some (.bool false)) (by decide +kernel)
    cases htext

/-- The truth value is never looked at, since it is the same number as the low bound. -/
theorem condition_skips_high :
    let range : Range := ⟨⟨some (.int 1), true, some (.bool true), true⟩, by decide +kernel⟩
    let domain : Domain := ⟨.some [range] [] (.inl (by simp)), false⟩
    condition ⟨.generic, "\""⟩ "C" domain .bigint = .ok (some "\"C\" = 1") ∧
      ¬∀ v ∈ domain.operands, Literal.Accepts "C" .generic .bigint v := by
  intro range domain
  refine ⟨by decide +kernel, fun haccepts => ?_⟩
  obtain ⟨text, htext⟩ := haccepts (some (.bool true)) (by decide +kernel)
  cases htext

end SqlStyle
end Pushdown
