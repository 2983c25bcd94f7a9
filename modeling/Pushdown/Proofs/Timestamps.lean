import Pushdown.Proofs.Selection

/-!
Instants within a second. Literals have whole seconds, so a condition on timestamps is that of the
domain whose values are all moved to the start of their second.
-/
namespace Pushdown

open Sql

/-- A count of milliseconds without a part of a second. -/
def Value.IsWholeSecond (v : Value) : Prop := ∃ n : Int, v = .int (n * 1000)

theorem Datum.instant_lt {m n : Int} : Datum.instant m < .instant n ↔ m < n := by
  simp [Datum.lt_iff, Datum.compare?, orderOf_eq_lt]

/-- The milliseconds of the calendar. -/
theorem Value.datum?_instant {n : Int} (hlow : -62135596800000 ≤ n) (hhigh : n < 253402300800000) :
    Value.datum? .timestamp (.int n) = some (.instant n) := by
  have hrange : Date.firstDay * 86400000 ≤ n ∧ n < (Date.lastDay + 1) * 86400000 := by
    rw [Date.firstDay_eq, Date.lastDay_eq]
    omega
  exact if_pos hrange

theorem Value.datum?_timestamp {v : Value} {d : Datum} (h : v.datum? .timestamp = some d) :
    ∃ n, v = .int n ∧ d = .instant n ∧
      v.spelled? .timestamp = some (.instant (n.fdiv 1000 * 1000)) := by
  have hspelled : v.spelled? .timestamp = some d.wholeSecond := by simp [spelled?, h]
  cases means_of_datum? h with
  | instant hlow hhigh => exact ⟨_, rfl, rfl, hspelled⟩

theorem Value.IsWholeSecond.spelled?_eq {v : Value} (hv : v.IsWholeSecond) :
    v.spelled? .timestamp = v.datum? .timestamp := by
  obtain ⟨n, rfl⟩ := hv
  unfold spelled?
  cases hd : Value.datum? .timestamp (.int (n * 1000)) with
  | none => rfl
  | some d =>
    obtain ⟨m, hm, rfl, -⟩ := datum?_timestamp hd
    obtain rfl := Value.int.inj hm
    have hfloor : (n * 1000).fdiv 1000 = n := by
      rw [Int.mul_fdiv_cancel n (by decide)]
    simp [Datum.wholeSecond, hfloor]

/-- What is within bounds stays within them when the low end moves to the start of its second. -/
theorem Bounds.contains_spelled {b : Bounds} {n : Int}
    (hhigh : ∀ high, b.high = some high → high.IsWholeSecond)
    (h : b.Contains (Value.datum? .timestamp) (.instant n)) :
    b.Contains (Value.spelled? .timestamp) (.instant n) := by
  refine ⟨fun low hlow => ?_, fun high hb => ?_⟩
  · obtain ⟨l, hl, hbelow⟩ := h.1 low hlow
    obtain ⟨m, -, rfl, hspelled⟩ := Value.datum?_timestamp hl
    refine ⟨_, hspelled, ?_⟩
    have hfloor : m.fdiv 1000 * 1000 ≤ m := by
      rw [Int.fdiv_eq_ediv_of_nonneg _ (by decide)]
      omega
    simp only [Datum.instant_lt, Datum.instant.injEq] at hbelow ⊢
    rcases hbelow with hlt | ⟨hincl, rfl⟩
    · exact .inl (by omega)
    · rcases Int.lt_or_eq_of_le hfloor with hlt | heq
      · exact .inl hlt
      · exact .inr ⟨hincl, heq⟩
  · rw [(hhigh high hb).spelled?_eq]
    exact h.2 high hb

/-- Timestamps in a domain count for the start of their second, in every position. A domain whose
high bounds and listed values are whole seconds keeps every row that it admits. -/
theorem SqlStyle.condition_keeps_instants {dialect : Dialect} {q : Char} (column : String)
    (hd : dialect.Known) (hq : IsQuote q) {d : Domain}
    (hset : d.set.kind = .some)
    (hops : ∀ v ∈ d.operands, (v.bind (Value.datum? .timestamp)).isSome) :
    ∃ text f, condition ⟨dialect, q.toString⟩ column d .timestamp = .ok (some text) ∧
      condition? q text = some f ∧
      ∀ row : Row, (∀ x, row column = some x → x.Fits .timestamp) →
        (f.Holds row.test ↔ d.Admits (Value.spelled? .timestamp) (row column)) ∧
        ((∀ r ∈ d.set.ranges, ∀ high, r.high = some high → high.IsWholeSecond) →
          (∀ v ∈ d.set.values, ∃ w, v = some w ∧ w.IsWholeSecond) →
          d.Admits (Value.datum? .timestamp) (row column) → f.Holds row.test) := by
  obtain ⟨c, hc, hnone, hread⟩ := condition_spec column hd hq hops
  have hsome : c ≠ none := by
    intro hnil
    rcases hnone.mp hnil with hall | hpush
    · cases hcase : d.set <;> simp_all [Domain.isAll, ValueSet.kind]
    · cases hpush
  obtain ⟨text, rfl⟩ := Option.ne_none_iff_exists'.mp hsome
  obtain ⟨f, hf, hholds⟩ := hread text rfl
  refine ⟨text, f, hc, hf, fun row hfit => ⟨hholds row hfit, fun hranges hvalues hadmits => ?_⟩⟩
  rw [hholds row hfit]
  cases hrow : row column with
  | none =>
    rw [hrow] at hadmits
    exact hadmits
  | some x =>
    rw [hrow] at hadmits
    have hx := hfit x hrow
    cases x <;> cases hx
    cases hcase : d.set with
    | all => simp [hcase, ValueSet.kind] at hset
    | none => simp [hcase, ValueSet.kind] at hset
    | some ranges values inhabited =>
      simp only [Domain.Admits, hcase, ValueSet.Contains, ValueSet.ranges, ValueSet.values]
        at hadmits hranges hvalues ⊢
      rcases hadmits with ⟨r, hr, hcontains⟩ | ⟨v, hv, heq⟩
      · exact .inl ⟨r, hr, Bounds.contains_spelled (hranges r hr) hcontains⟩
      · obtain ⟨w, rfl, hw⟩ := hvalues v hv
        exact .inr ⟨_, hv, (hw.spelled?_eq).trans heq⟩

/-- A low bound within a second and a listed value without a part of one. -/
theorem SqlStyle.condition_keeps_instants_from :
    let range : Range := ⟨.greaterThan (some (.int (-1500))), rfl⟩
    let domain : Domain := ⟨.some [range] [some (.int (-7000))] (.inl (by simp)), false⟩
    ∃ text f, condition ⟨.generic, "`"⟩ "TS" domain .timestamp = .ok (some text) ∧
      condition? '`' text = some f ∧
      ∀ row : Row, (∀ x, row "TS" = some x → x.Fits .timestamp) →
        domain.Admits (Value.datum? .timestamp) (row "TS") → f.Holds row.test := by
  intro range domain
  have hops : ∀ v ∈ domain.operands, (v.bind (Value.datum? .timestamp)).isSome := by
    have hlow : Value.datum? .timestamp (.int (-1500)) = some (.instant (-1500)) :=
      Value.datum?_instant (by decide) (by decide)
    have hvalue : Value.datum? .timestamp (.int (-7000)) = some (.instant (-7000)) :=
      Value.datum?_instant (by decide) (by decide)
    have hoperands : domain.operands = [some (.int (-1500)), some (.int (-7000))] := rfl
    rw [hoperands, List.forall_mem_cons, List.forall_mem_singleton, Option.bind_some,
      Option.bind_some, hlow, hvalue]
    exact ⟨rfl, rfl⟩
  obtain ⟨text, f, hc, hf, hholds⟩ :=
    condition_keeps_instants "TS" (q := '`') (.inl rfl) (.inr rfl) rfl hops
  refine ⟨text, f, hc, hf, fun row hfit => (hholds row hfit).2 ?_ ?_⟩
  · simp [domain, range, Bounds.greaterThan, ValueSet.ranges]
  · simp only [domain, ValueSet.values, List.forall_mem_singleton]
    exact ⟨_, rfl, -7, rfl⟩

/-- An instant up to one and a half seconds is lost when the bound is cut to one second. -/
theorem SqlStyle.condition_loses_instant :
    let range : Range := ⟨.lessThanOrEqual (some (.int 1500)), rfl⟩
    let domain : Domain := ⟨.some [range] [] (.inl (by simp)), false⟩
    let row : Row := fun _ => some (.instant 1200)
    domain.Admits (Value.datum? .timestamp) (row "TS") ∧
      ∃ text f, condition ⟨.generic, "\""⟩ "TS" domain .timestamp = .ok (some text) ∧
        condition? '"' text = some f ∧ ¬ f.Holds row.test := by
  intro range domain row
  have hvalue : Value.datum? .timestamp (.int 1500) = some (.instant 1500) :=
    Value.datum?_instant (by decide) (by decide)
  have hops : ∀ v ∈ domain.operands, (v.bind (Value.datum? .timestamp)).isSome := by
    have hoperands : domain.operands = [some (.int 1500)] := rfl
    rw [hoperands, List.forall_mem_singleton, Option.bind_some, hvalue]
    rfl
  have hcontains (place : Value → Option Datum) : domain.Admits place (row "TS") ↔
      ∃ h, place (.int 1500) = some h ∧ (Datum.instant 1200 < h ∨ Datum.instant 1200 = h) := by
    simp [domain, range, row, Domain.Admits, ValueSet.Contains, Bounds.Contains,
      Bounds.lessThanOrEqual]
  refine ⟨(hcontains _).mpr ⟨_, hvalue, by simp [Datum.instant_lt]⟩, ?_⟩
  obtain ⟨c, hc, hnone, hread⟩ := condition_spec "TS" (.inl rfl) (q := '"') (.inl rfl) hops
  cases c with
  | none => exact absurd (hnone.mp rfl) (by decide)
  | some text =>
    obtain ⟨f, hf, hholds⟩ := hread text rfl
    have hfit : ∀ x, row "TS" = some x → x.Fits .timestamp := by
      rintro x ⟨⟩
      rfl
    refine ⟨text, f, hc, hf, ?_⟩
    rw [hholds row hfit, hcontains]
    simp [Value.spelled?, hvalue, Datum.wholeSecond, Datum.instant_lt, Int.fdiv]

end Pushdown
