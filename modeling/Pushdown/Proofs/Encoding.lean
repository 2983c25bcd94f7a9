import Pushdown.Proofs.Operands
import Pushdown.Proofs.Range
import Pushdown.Proofs.Rendering
import Pushdown.Proofs.Utf8

/-!
Text and its UTF-8 bytes as operands of text columns. Bytes are compared as the text is and are
written as the text is, so that it makes no difference which of the two a domain is stated with.
-/
namespace Pushdown

/-- Text as its bytes; every other value as it is. -/
def Value.encoded : Value → Value
  | .text s => .bytes (Text.utf8 s)
  | v => v

def Bounds.encoded (b : Bounds) : Bounds :=
  { b with low := b.low.map Value.encoded, high := b.high.map Value.encoded }

def RangeFault.encoded : RangeFault → RangeFault
  | .notComparable low high => .notComparable low.encoded high.encoded
  | .inverted low high => .inverted low.encoded high.encoded
  | .pointExcluded value => .pointExcluded value.encoded
  | fault => fault

/-- Two bounds that are both present can be compared. -/
def Bounds.Comparable (b : Bounds) : Prop :=
  ∀ low, b.low = some low → ∀ high, b.high = some high → high.lt? low ≠ none

/-! Comparing. -/

namespace Value

variable {v w : Value}

/-- Two values that are ordered are both text, or neither is. -/
theorem text_or_encoded_eq (h : v.lt? w ≠ none) :
    (∃ s t, v = .text s ∧ w = .text t) ∨ v.encoded = v ∧ w.encoded = w := by
  cases v with
  | text s =>
    cases w with
    | text t => exact .inl ⟨s, t, rfl, rfl⟩
    | _ => exact absurd rfl h
  | _ =>
    cases w with
    | text t => exact absurd rfl h
    | _ => exact .inr ⟨rfl, rfl⟩

theorem lt?_encoded (h : v.lt? w ≠ none) : v.encoded.lt? w.encoded = v.lt? w := by
  rcases text_or_encoded_eq h with ⟨s, t, rfl, rfl⟩ | ⟨hv, hw⟩
  · exact congrArg some (decide_eq_decide.mpr Text.utf8_lt)
  · rw [hv, hw]

theorem same_encoded (h : w.lt? v ≠ none) : v.encoded.same w.encoded = v.same w := by
  rcases text_or_encoded_eq h with ⟨s, t, rfl, rfl⟩ | ⟨hw, hv⟩
  · exact decide_eq_decide.mpr Text.utf8_inj
  · rw [hv, hw]

end Value

/-! Ranges. -/

theorem boundsFault?_encoded {low high : Value} {i : Bool} (h : high.lt? low ≠ none) :
    boundsFault? low.encoded high.encoded i = (boundsFault? low high i).map .encoded := by
  unfold boundsFault?
  rw [Value.lt?_encoded h, Value.same_encoded h]
  split
  · rfl
  · rfl
  · split <;> rfl

namespace Bounds

variable {b : Bounds}

/-- Bounds of text can be compared. -/
theorem comparable_of_text (h : ∀ v ∈ b.operands, ∃ s, v = .text s) : b.Comparable := by
  intro low hlow high hhigh
  obtain ⟨s, rfl⟩ := h low (by simp [operands, hlow])
  obtain ⟨t, rfl⟩ := h high (by simp [operands, hhigh])
  exact Option.some_ne_none _

theorem fault?_encoded (h : b.Comparable) : b.encoded.fault? = b.fault?.map .encoded := by
  obtain ⟨low?, lowInclusive, high?, highInclusive⟩ := b
  simp only [fault?, encoded, Option.isNone_map]
  split
  · rfl
  · split
    · rfl
    · cases low? with
      | none => rfl
      | some low =>
        cases high? with
        | none => rfl
        | some high => exact boundsFault?_encoded (h low rfl high rfl)

theorem single?_encoded (h : b.Comparable) : b.encoded.single? = b.single?.map Value.encoded := by
  obtain ⟨low?, lowInclusive, high?, highInclusive⟩ := b
  cases low? with
  | none => rfl
  | some low =>
    cases high? with
    | none => rfl
    | some high =>
      simp only [single?, encoded, Option.map_some, Value.same_encoded (h low rfl high rfl)]
      split <;> rfl

end Bounds

namespace Range

theorem comparable (r : Range) : r.Comparable := by
  intro low hlow high hhigh hnone
  have hsound := r.sound
  rw [Bounds.fault?, hlow, hhigh] at hsound
  simp [boundsFault?, hnone] at hsound

def encoded (r : Range) : Range :=
  ⟨r.toBounds.encoded, by rw [Bounds.fault?_encoded r.comparable, r.sound, Option.map_none]⟩

theorem single?_encoded (r : Range) : r.encoded.single? = r.single?.map Value.encoded :=
  Bounds.single?_encoded r.comparable

/-- Bounds that can be compared are accepted or rejected alike when text is replaced by bytes. -/
theorem make_encoded {b : Bounds} (h : b.Comparable) :
    (∀ r, make b = .ok r → make b.encoded = .ok r.encoded) ∧
      ∀ fault, make b = .error fault → make b.encoded = .error fault.encoded := by
  constructor
  · intro r hr
    obtain rfl := make_eq_ok.mp hr
    exact make_eq_ok.mpr rfl
  · intro fault hfault
    rw [make_eq_error] at hfault ⊢
    rw [Bounds.fault?_encoded h, hfault, Option.map_some]

end Range

/-! Conditions. -/

/-- The domain with its bounds as bytes, and its listed values too where the choice says so. -/
def Domain.encoded (choice : Nat → Bool) (d : Domain) : Domain where
  set :=
    match d.set with
    | .all => .all
    | .none => .none
    | .some ranges values inhabited =>
      .some (ranges.map Range.encoded)
        (values.mapIdx fun i v => if choice i then v.map Value.encoded else v)
        (by simpa using inhabited)
  nullAllowed := d.nullAllowed

/-- All that the domain is stated with is text. -/
def Domain.IsText (d : Domain) : Prop := ∀ v ∈ d.operands, ∃ s, v = some (.text s)

variable {column : String} {dialect : Dialect} {type : LogicalType}
  {length? : Option VarcharLength} {d : Domain} {fault : LiteralFault}

namespace Literal

theorem render_encoded (v : Option Value) :
    render column (v.map Value.encoded) dialect (.varchar length?) =
      render column v dialect (.varchar length?) := by
  rcases v with _ | v
  · rfl
  · cases v with
    | text s =>
      have hdecode := decodeUtf8?_eq_some.mpr (rfl : Text.utf8 s = Text.utf8 s)
      simp [render, Value.encoded, textOf, hdecode, orBreach]
    | _ => rfl

theorem accepts_bytes {bytes : List UInt8}
    (h : Accepts column dialect (.varchar length?) (some (.bytes bytes))) :
    ∃ s, Text.utf8 s = bytes := by
  obtain ⟨text, h⟩ := h
  cases hdecode : decodeUtf8? bytes with
  | some s => exact ⟨s, decodeUtf8?_eq_some.mp hdecode⟩
  | none => simp [render, textOf, hdecode, orBreach] at h

end Literal

namespace Condition

theorem comparison_encoded (op : Comparison) (v : Option Value) :
    comparison column dialect (.varchar length?) op (v.map Value.encoded) =
      comparison column dialect (.varchar length?) op v := by
  rw [comparison, comparison, Literal.render_encoded]

/-- One side of a range has the same tests. -/
theorem side_encoded {bound : Option Value} {op : Comparison} :
    (match bound.map Value.encoded with
      | none => Except.ok []
      | some v => do return [← comparison column dialect (.varchar length?) op (some v)]) =
      match bound with
      | none => Except.ok []
      | some v => do return [← comparison column dialect (.varchar length?) op (some v)] := by
  cases bound with
  | none => rfl
  | some v =>
    have hv : some v.encoded = (some v).map Value.encoded := rfl
    rw [Option.map_some]
    dsimp only
    rw [hv, comparison_encoded]

theorem rangeTests_encoded (r : Range) :
    rangeTests column dialect (.varchar length?) r.encoded =
      rangeTests column dialect (.varchar length?) r := by
  have hlow : lowTests column dialect (.varchar length?) r.encoded =
      lowTests column dialect (.varchar length?) r := side_encoded
  have hhigh : highTests column dialect (.varchar length?) r.encoded =
      highTests column dialect (.varchar length?) r := side_encoded
  rw [rangeTests, hlow, hhigh, rangeTests]

theorem valueTests_encoded (v : Option Value) :
    valueTests column dialect (.varchar length?) (v.map Value.encoded) =
      valueTests column dialect (.varchar length?) v := by
  rw [valueTests, comparison_encoded, valueTests]

end Condition

namespace Domain

variable {choice : Nat → Bool}

theorem ranges_encoded : (d.encoded choice).set.ranges = d.set.ranges.map Range.encoded := by
  obtain ⟨set, nullAllowed⟩ := d
  cases set <;> rfl

theorem spans_encoded : (d.encoded choice).spans = d.spans.map Range.encoded := by
  have hsingle : (fun r : Range => r.single?.isNone) ∘ Range.encoded = (·.single?.isNone) := by
    funext r
    simp [Range.single?_encoded]
  rw [spans, spans, ranges_encoded, List.filter_map, hsingle]

/-- Values that are tested one by one stay in place. -/
theorem map_points_encoded {β : Type} {f : Option Value → β}
    (h : ∀ v, f (v.map Value.encoded) = f v) :
    (d.encoded choice).points.map f = d.points.map f := by
  have hvalues : (d.encoded choice).set.values.map f = d.set.values.map f := by
    obtain ⟨set, nullAllowed⟩ := d
    cases set with
    | some ranges values inhabited =>
      have heach (i : Nat) (v : Option Value) :
          f (if choice i then v.map Value.encoded else v) = f v := by
        split
        · exact h v
        · rfl
      refine List.ext_getElem? fun i => ?_
      simp only [encoded, ValueSet.values, List.getElem?_map, List.getElem?_mapIdx, Option.map_map]
      exact Option.map_congr fun v _ => heach i v
    | _ => rfl
  have hsingles : ((d.encoded choice).set.ranges.filterMap (·.single?)).map (f ∘ some) =
      (d.set.ranges.filterMap (·.single?)).map (f ∘ some) := by
    rw [ranges_encoded, List.filterMap_map, List.map_filterMap, List.map_filterMap]
    refine List.filterMap_congr fun r _ => ?_
    simp only [Function.comp_apply, Range.single?_encoded, Option.map_map]
    exact Option.map_congr fun v _ => h (some v)
  rw [points, points, List.map_append, List.map_append, List.map_map, List.map_map, hvalues,
    hsingles]

end Domain

namespace Condition

theorem ofDomain_listed {ranges values inhabited} (hset : d.set = .some ranges values inhabited)
    (hpush : type.isPushable = true) :
    ofDomain column dialect type d = (do
      let spanTests ← d.spans.mapM (rangeTests column dialect type)
      let pointTests ← d.points.mapM (valueTests column dialect type)
      return some (.anyOf
        (spanTests ++ pointTests ++ if d.nullAllowed then [[.isNull]] else []))) := by
  have hall : d.isAll = false := by simp [Domain.isAll, hset]
  simp [ofDomain, hall, hpush, hset, Domain.spans, Domain.points, ValueSet.ranges, ValueSet.values]

theorem ofDomain_encoded (choice : Nat → Bool) :
    ofDomain column dialect (.varchar length?) (d.encoded choice) =
      ofDomain column dialect (.varchar length?) d := by
  have hspans : (d.encoded choice).spans.mapM (rangeTests column dialect (.varchar length?)) =
      d.spans.mapM (rangeTests column dialect (.varchar length?)) := by
    apply mapM_congr_map
    rw [Domain.spans_encoded, List.map_map]
    exact List.map_congr_left fun r _ => rangeTests_encoded r
  have hpoints : (d.encoded choice).points.mapM (valueTests column dialect (.varchar length?)) =
      d.points.mapM (valueTests column dialect (.varchar length?)) :=
    mapM_congr_map (Domain.map_points_encoded valueTests_encoded)
  obtain ⟨set, nullAllowed⟩ := d
  cases set with
  | all => rfl
  | none => rfl
  | some ranges values inhabited =>
    rw [ofDomain_listed rfl rfl, ofDomain_listed rfl rfl, hspans, hpoints]
    rfl

/-- A test that is not made leaves its fault. -/
theorem render_of_comparison_eq_error {op : Comparison} {v : Option Value}
    (h : comparison column dialect type op v = .error fault) :
    Literal.render column v dialect type = .error fault := by
  rcases bind_eq_error.mp h with h | ⟨text, -, h⟩
  · exact h
  · cases h

theorem render_of_valueTests_eq_error {v : Option Value}
    (h : valueTests column dialect type v = .error fault) :
    Literal.render column v dialect type = .error fault := by
  rcases bind_eq_error.mp h with h | ⟨t, -, h⟩
  · exact render_of_comparison_eq_error h
  · cases h

theorem exists_of_side_eq_error {bound : Option Value} {op : Comparison}
    (h : (match bound with
      | none => Except.ok []
      | some v => do return [← comparison column dialect type op (some v)]) = .error fault) :
    ∃ v ∈ bound.toList, Literal.render column (some v) dialect type = .error fault := by
  cases bound with
  | none => cases h
  | some v =>
    rcases bind_eq_error.mp h with h | ⟨t, -, h⟩
    · exact ⟨v, List.mem_singleton_self v, render_of_comparison_eq_error h⟩
    · cases h

/-- What keeps a range from being written is one of its bounds. -/
theorem exists_of_rangeTests_eq_error {r : Range}
    (h : rangeTests column dialect type r = .error fault) :
    ∃ v ∈ r.operands, Literal.render column (some v) dialect type = .error fault := by
  rcases bind_eq_error.mp h with hlow | ⟨lows, -, h⟩
  · obtain ⟨v, hv, hrender⟩ := exists_of_side_eq_error hlow
    exact ⟨v, List.mem_append_left _ hv, hrender⟩
  · rcases bind_eq_error.mp h with hhigh | ⟨highs, -, h⟩
    · obtain ⟨v, hv, hrender⟩ := exists_of_side_eq_error hhigh
      exact ⟨v, List.mem_append_right _ hv, hrender⟩
    · cases h

/-- What keeps a domain from being written is one of the values that are tested. -/
theorem exists_of_ofDomain_eq_error (h : ofDomain column dialect type d = .error fault) :
    ∃ v ∈ d.tested, Literal.render column v dialect type = .error fault := by
  have hpush : type.isPushable = true := by
    by_contra hpush
    rw [ofDomain, if_pos (by simp [hpush])] at h
    cases h
  cases hset : d.set with
  | all =>
    rw [ofDomain, hset] at h
    split at h <;> cases h
  | none =>
    rw [ofDomain, hset] at h
    split at h <;> cases h
  | some ranges values inhabited =>
    rw [ofDomain_listed hset hpush] at h
    rcases bind_eq_error.mp h with hspans | ⟨spanTests, -, h⟩
    · obtain ⟨r, hr, hspan⟩ := exists_of_mapM_eq_error hspans
      obtain ⟨v, hv, hrender⟩ := exists_of_rangeTests_eq_error hspan
      refine ⟨some v, List.mem_append_left _ (List.mem_flatMap.mpr ⟨r, hr, ?_⟩), hrender⟩
      exact List.mem_map_of_mem hv
    · rcases bind_eq_error.mp h with hpoints | ⟨pointTests, -, h⟩
      · obtain ⟨v, hv, hpoint⟩ := exists_of_mapM_eq_error hpoints
        exact ⟨v, List.mem_append_right _ hv, render_of_valueTests_eq_error hpoint⟩
      · cases h

/-- What is tested in a condition has been written. -/
theorem accepts_of_ofDomain_eq_ok {c : Option Condition} (hpush : type.isPushable = true)
    (h : ofDomain column dialect type d = .ok c) {v : Option Value} (hv : v ∈ d.tested) :
    Literal.Accepts column dialect type v := by
  have hempty (hranges : d.set.ranges = []) (hvalues : d.set.values = []) : d.tested = [] := by
    rw [Domain.tested, Domain.spans, Domain.points, hranges, hvalues]
    rfl
  cases hset : d.set with
  | all =>
    rw [hempty (by rw [hset]; rfl) (by rw [hset]; rfl)] at hv
    cases hv
  | none =>
    rw [hempty (by rw [hset]; rfl) (by rw [hset]; rfl)] at hv
    cases hv
  | some ranges values inhabited =>
    rcases ofDomain_eq_ok h with ⟨hskip, -⟩ | ⟨-, -, condition, rfl, -⟩
    · simp [Domain.isAll, hset, hpush] at hskip
    · exact (exists_ofDomain_iff hset hpush).mp ⟨condition, h⟩ v hv

end Condition

namespace SqlStyle

/-- A domain stated with text can be stated with its UTF-8 bytes instead, in a column of text: its
ranges are accepted or rejected alike, and its condition is the same. Bytes that are no text are
refused in the name of the column. -/
theorem condition_encoded (s : SqlStyle) (column : String) (length? : Option VarcharLength) :
    (∀ t u : String, Text.utf8 t < Text.utf8 u ↔ t < u) ∧
    (∀ b : Bounds, (∀ v ∈ b.operands, ∃ t, v = .text t) →
      (∀ r, Range.make b = .ok r → Range.make b.encoded = .ok r.encoded ∧
        r.encoded.single? = r.single?.map Value.encoded) ∧
      ∀ fault, Range.make b = .error fault → Range.make b.encoded = .error fault.encoded) ∧
    (∀ d choice, s.condition column (d.encoded choice) (.varchar length?) =
      s.condition column d (.varchar length?)) ∧
    (∀ d : Domain, d.IsText → ∃ text?, s.condition column d (.varchar length?) = .ok text?) ∧
    ∀ (d : Domain) (bytes : List UInt8), some (.bytes bytes) ∈ d.tested →
      (∀ t, Text.utf8 t ≠ bytes) →
      ∃ b, s.condition column d (.varchar length?) = .error (.breach b) ∧ b.column = column := by
  refine ⟨fun t u => Text.utf8_lt, fun b hb => ?_, fun d choice => ?_, fun d hd => ?_, ?_⟩
  · obtain ⟨haccepted, hrejected⟩ := Range.make_encoded (Bounds.comparable_of_text hb)
    exact ⟨fun r hr => ⟨haccepted r hr, Range.single?_encoded r⟩, hrejected⟩
  · rw [condition, Condition.ofDomain_encoded, condition]
  · cases hc : Condition.ofDomain column s.dialect (.varchar length?) d with
    | ok c => exact ⟨_, by rw [condition, hc, ok_bind]; rfl⟩
    | error fault =>
      obtain ⟨v, hv, hrender⟩ := Condition.exists_of_ofDomain_eq_error hc
      obtain ⟨t, rfl⟩ := hd v (Domain.mem_operands_of_tested hv)
      cases hrender
  · intro d bytes htested hinvalid
    cases hc : Condition.ofDomain column s.dialect (.varchar length?) d with
    | ok c =>
      obtain ⟨t, ht⟩ := Literal.accepts_bytes (Condition.accepts_of_ofDomain_eq_ok rfl hc htested)
      exact absurd ht (hinvalid t)
    | error fault =>
      obtain ⟨v, -, hrender⟩ := Condition.exists_of_ofDomain_eq_error hc
      obtain ⟨m, rfl⟩ := Literal.blames_of_orBreach_bind hrender
      exact ⟨_, by rw [condition, hc, error_bind]; rfl, rfl⟩

/-- A range whose bounds would be the wrong way round by their UTF-16 units, one whose bounds are
the wrong way round, and a byte that begins a character and stands alone. -/
theorem condition_encoded_emoji :
    let range : Range := ⟨⟨some (.text "ﬁ"), true, some (.text "😀"), false⟩, by decide +kernel⟩
    let inverted : Bounds := ⟨some (.text "é"), true, some (.text "z"), true⟩
    let domain : Domain := ⟨.some [range] [some (.text "é")] (.inl (by simp)), false⟩
    let cut : Domain := ⟨.some [] [some (.bytes [0xC3])] (.inr (by simp)), false⟩
    Range.make inverted.encoded = .error (.inverted (.bytes [0xC3, 0xA9]) (.bytes [0x7A])) ∧
      (domain.encoded (· == 0)).tested = [some (.bytes [0xEF, 0xAC, 0x81]),
        some (.bytes [0xF0, 0x9F, 0x98, 0x80]), some (.bytes [0xC3, 0xA9])] ∧
      condition ⟨.generic, "\""⟩ "C" (domain.encoded (· == 0)) (.varchar none) =
        .ok (some "((\"C\" >= 'ﬁ' AND \"C\" < '😀') OR \"C\" = 'é')") ∧
      (∃ text?, condition ⟨.generic, "\""⟩ "C" domain (.varchar none) = .ok text?) ∧
      ∃ b, condition ⟨.generic, "\""⟩ "C" cut (.varchar none) = .error (.breach b) ∧
        b.column = "C" := by
  intro range inverted domain cut
  obtain ⟨-, hranges, hsame, htext, hinvalid⟩ := condition_encoded ⟨.generic, "\""⟩ "C" none
  refine ⟨?_, by decide +kernel, ?_, htext domain ?_, ?_⟩
  · have htext : ∀ v ∈ inverted.operands, ∃ t, v = .text t := by
      simp [inverted, Bounds.operands]
    have hfault : Range.make inverted = .error (.inverted (.text "é") (.text "z")) := by
      decide +kernel
    rw [(hranges inverted htext).2 _ hfault]
    decide +kernel
  · rw [hsame]
    decide +kernel
  · simp [Domain.IsText, domain, range, Domain.operands, Bounds.operands, ValueSet.ranges,
      ValueSet.values]
  · have hcut : Literal.decodeUtf8? [0xC3] = none := by decide +kernel
    refine hinvalid cut [0xC3] (by decide +kernel) fun t ht => ?_
    rw [Literal.decodeUtf8?_eq_some.mpr ht] at hcut
    cases hcut

end SqlStyle
end Pushdown
