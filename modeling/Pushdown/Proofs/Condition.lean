import Pushdown.Condition
import Pushdown.Proofs.Except

/-!
How conditions are put together from domains: one alternative for each range, then one for each
value that is tested alone, then null.
-/
namespace Pushdown

/-- The ranges of a domain that are not a single value. -/
def Domain.spans (d : Domain) : List Range := d.set.ranges.filter (·.single?.isNone)

/-- The values that are tested one by one: those of single ranges, then the listed ones. -/
def Domain.points (d : Domain) : List (Option Value) :=
  (d.set.ranges.filterMap (·.single?)).map some ++ d.set.values

theorem Domain.spans_append_points_ne_nil {d : Domain} {ranges values inhabited}
    (hset : d.set = .some ranges values inhabited) (hspans : d.spans = []) : d.points ≠ [] := by
  simp only [spans, points, hset, ValueSet.ranges, ValueSet.values] at hspans ⊢
  rcases inhabited with hne | hne
  · obtain ⟨r, rest, rfl⟩ := List.exists_cons_of_ne_nil hne
    have hsingle : r.single?.isSome := by
      simpa [← Option.isSome_iff_ne_none] using List.filter_eq_nil_iff.mp hspans r (by simp)
    obtain ⟨v, hv⟩ := Option.isSome_iff_exists.mp hsingle
    simp [hv]
  · simp [hne]

section
variable {column : String} {dialect : Dialect} {type : LogicalType}

/-- The condition that a domain other than the one of all values and null is compiled to. -/
inductive Condition.Compiled (column : String) (dialect : Dialect) (type : LogicalType) :
    Domain → Condition → Prop
  | none {d : Domain} (hset : d.set = .none) :
    Compiled column dialect type d (if d.nullAllowed then .anyOf [[.isNull]] else .never)
  | notNull {d : Domain} (hset : d.set = .all) (hnull : d.nullAllowed = false) :
    Compiled column dialect type d (.anyOf [[.isNotNull]])
  | listed {d : Domain} {ranges values inhabited} {spanTests pointTests : List (List Test)}
    (hset : d.set = .some ranges values inhabited)
    (hspans : List.Forall₂ (fun r tests => rangeTests column dialect type r = .ok tests)
      d.spans spanTests)
    (hpoints : List.Forall₂ (fun v tests => valueTests column dialect type v = .ok tests)
      d.points pointTests) :
    Compiled column dialect type d
      (.anyOf (spanTests ++ pointTests ++ if d.nullAllowed then [[.isNull]] else []))

theorem Condition.ofDomain_eq_ok {d : Domain} {c : Option Condition}
    (h : ofDomain column dialect type d = .ok c) :
    ((d.isAll = true ∨ type.isPushable = false) ∧ c = none) ∨
      d.isAll = false ∧ type.isPushable = true ∧
        ∃ condition, c = some condition ∧ Compiled column dialect type d condition := by
  unfold ofDomain at h
  split at h
  · rename_i hskip
    exact .inl ⟨by simpa using hskip, (Except.ok.inj h).symm⟩
  · rename_i hskip
    simp only [Bool.or_eq_true, Bool.not_eq_true', not_or, Bool.not_eq_true] at hskip
    refine .inr ⟨hskip.1, by simpa using hskip.2, ?_⟩
    split at h
    · rename_i hset
      exact ⟨_, (Except.ok.inj h).symm, .none hset⟩
    · rename_i hset
      have hnull : d.nullAllowed = false := by simpa [Domain.isAll, hset] using hskip.1
      exact ⟨_, (Except.ok.inj h).symm, .notNull hset hnull⟩
    · rename_i ranges values inhabited hset
      obtain ⟨spanTests, hspans, h⟩ := bind_eq_ok.mp h
      obtain ⟨pointTests, hpoints, h⟩ := bind_eq_ok.mp h
      refine ⟨_, (Except.ok.inj h).symm, .listed hset ?_ ?_⟩
      · simpa [Domain.spans, ValueSet.ranges, hset] using mapM_eq_ok.mp hspans
      · simpa [Domain.points, ValueSet.ranges, ValueSet.values, hset] using mapM_eq_ok.mp hpoints

theorem Condition.comparison_eq_ok {op : Comparison} {value : Option Value} {t : Test} :
    comparison column dialect type op value = .ok t ↔
      ∃ literal, Literal.render column value dialect type = .ok literal ∧
        t = .compare op literal := by
  rw [comparison, bind_eq_ok]
  exact exists_congr fun literal => and_congr_right fun _ =>
    ⟨fun h => (Except.ok.inj h).symm, fun h => h ▸ rfl⟩

theorem Condition.valueTests_eq_ok {value : Option Value} {tests : List Test} :
    valueTests column dialect type value = .ok tests ↔
      ∃ t, comparison column dialect type .eq value = .ok t ∧ tests = [t] := by
  rw [valueTests, bind_eq_ok]
  exact exists_congr fun t => and_congr_right fun _ =>
    ⟨fun h => (Except.ok.inj h).symm, fun h => h ▸ rfl⟩

/-- One side of a range has one test if it is bounded and none otherwise. -/
theorem Condition.side_eq_ok {bound : Option Value} {op : Comparison} {tests : List Test} :
    (match bound with
      | none => Except.ok []
      | some v => do return [← comparison column dialect type op (some v)]) = .ok tests ↔
      List.Forall₂ (fun v t => comparison column dialect type op (some v) = .ok t)
        bound.toList tests := by
  cases bound with
  | none =>
    rw [Option.toList_none, List.forall₂_nil_left_iff]
    exact ⟨fun h => (Except.ok.inj h).symm, fun h => h ▸ rfl⟩
  | some v =>
    simp only [Option.toList_some, List.forall₂_cons_left_iff, List.forall₂_nil_left_iff,
      bind_eq_ok]
    exact exists_congr fun t => ⟨fun ⟨ht, h⟩ => ⟨[], ht, rfl, (Except.ok.inj h).symm⟩,
      fun ⟨_, ht, hnil, h⟩ => ⟨ht, by rw [h, hnil]; rfl⟩⟩

theorem Condition.lowTests_eq_ok {r : Range} {tests : List Test} :
    lowTests column dialect type r = .ok tests ↔
      List.Forall₂ (fun low t => comparison column dialect type
        (if r.lowInclusive then .ge else .gt) (some low) = .ok t) r.low.toList tests :=
  side_eq_ok

theorem Condition.highTests_eq_ok {r : Range} {tests : List Test} :
    highTests column dialect type r = .ok tests ↔
      List.Forall₂ (fun high t => comparison column dialect type
        (if r.highInclusive then .le else .lt) (some high) = .ok t) r.high.toList tests :=
  side_eq_ok

/-- The tests of a range: one for each bound, or that the column is not null. -/
theorem Condition.rangeTests_eq_ok {r : Range} {tests : List Test} :
    rangeTests column dialect type r = .ok tests ↔
      ∃ lows highs, lowTests column dialect type r = .ok lows ∧
        highTests column dialect type r = .ok highs ∧
        tests = if (lows ++ highs).isEmpty then [.isNotNull] else lows ++ highs := by
  unfold rangeTests
  simp only [bind_eq_ok]
  constructor
  · rintro ⟨lows, hlows, highs, hhighs, h⟩
    exact ⟨lows, highs, hlows, hhighs, (Except.ok.inj h).symm⟩
  · rintro ⟨lows, highs, hlows, hhighs, rfl⟩
    exact ⟨lows, hlows, highs, hhighs, rfl⟩

end

end Pushdown
