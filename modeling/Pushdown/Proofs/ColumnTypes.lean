import Pushdown.TypeCode

/-!
Logical types of columns by their codes. Codes of text alone look at the declared size, and the
length that they make of it is one that text may have.
-/
namespace Pushdown

/-- The codes of text whose length is the declared column size. -/
def sizedTextCodes : List Int :=
  [TypeCode.char, .nchar, .varchar, .nvarchar, .longvarchar, .longnvarchar].map TypeCode.number

/-- The length that is asked for when a column of text has a declared size. -/
def declaredLength (size : Option Int) : Option Int :=
  (size.filter (0 < ·)).map (min · maxVarcharLength)

theorem TypeCode.number_of_ofNumber? {n : Int} {c : TypeCode} (h : ofNumber? n = some c) :
    c.number = n := by
  have htable : ∀ entry ∈ table, entry.1.number = entry.2.1 := by decide
  obtain ⟨entry, hfind, rfl⟩ := Option.map_eq_some_iff.mp h
  have hn := List.find?_some hfind
  rw [htable entry (List.mem_of_find?_eq_some hfind)]
  exact beq_iff_eq.mp hn

theorem TypeCode.isSizedText_iff {n : Int} {c : TypeCode} (h : ofNumber? n = some c) :
    c.isSizedText = true ↔ n ∈ sizedTextCodes := by
  obtain rfl := number_of_ofNumber? h
  cases c <;> decide

theorem TypeCode.length?_of_fixedType? {c : TypeCode} {type : LogicalType}
    (h : c.fixedType? = some type) : type.length? = none := by
  cases c <;> cases h <;> rfl

variable {code : Int}

theorem logicalType?_of_mem (h : code ∈ sizedTextCodes) (size : Option Int) :
    logicalType? code size = some (sizedText size) := by
  have hknown : ∀ n ∈ sizedTextCodes, (TypeCode.ofNumber? n).isSome = true := by decide
  obtain ⟨c, hc⟩ := Option.isSome_iff_exists.mp (hknown code h)
  rw [logicalType?, hc, Option.bind_some, if_pos ((TypeCode.isSizedText_iff hc).mpr h)]

theorem logicalType?_of_not_mem (h : code ∉ sizedTextCodes) (size : Option Int) :
    logicalType? code size = (TypeCode.ofNumber? code).bind TypeCode.fixedType? := by
  rw [logicalType?]
  refine Option.bind_congr fun c hc => ?_
  rw [if_neg (mt (TypeCode.isSizedText_iff hc).mp h)]

/-- Whether columns of a code have a type does not depend on their size. -/
theorem logicalType?_eq_none_congr (size size' : Option Int) :
    logicalType? code size = none ↔ logicalType? code size' = none := by
  by_cases h : code ∈ sizedTextCodes
  · simp [logicalType?_of_mem h]
  · rw [logicalType?_of_not_mem h, logicalType?_of_not_mem h]

theorem length?_of_not_mem (h : code ∉ sizedTextCodes) {size : Option Int} {type : LogicalType}
    (htype : logicalType? code size = some type) : type.length? = none := by
  rw [logicalType?_of_not_mem h] at htype
  obtain ⟨c, -, hc⟩ := Option.bind_eq_some_iff.mp htype
  exact TypeCode.length?_of_fixedType? hc

theorem length?_sizedText (size : Option Int) :
    (sizedText size).length?.map (fun length => (length.val : Int)) = declaredLength size := by
  cases size with
  | none => rfl
  | some n =>
    unfold sizedText declaredLength
    by_cases hn : 0 < n
    · have hpos : 0 < n.toNat := by omega
      have hmin : ((min n.toNat maxVarcharLength : Nat) : Int) = min n maxVarcharLength := by omega
      simp [Option.filter, hn, hpos, LogicalType.length?, hmin]
    · have hzero : ¬0 < n.toNat := by omega
      simp [Option.filter, hn, hzero, LogicalType.length?]

/-- Text takes every length that a declared size asks for. -/
theorem make_declaredLength (size : Option Int) :
    LogicalType.make .varchar (declaredLength size) = .ok (sizedText size) := by
  have hmake (length? : Option VarcharLength) :
      LogicalType.make .varchar (length?.map fun length => (length.val : Int)) =
        .ok (.varchar length?) := by
    cases length? with
    | none => rfl
    | some length =>
      have hlength : 0 < length.val ∧ length.val ≤ maxVarcharLength := ⟨length.pos, length.le_max⟩
      simp [LogicalType.make, hlength]
  have htext : LogicalType.varchar (sizedText size).length? = sizedText size := by
    unfold sizedText
    split
    · rfl
    · split <;> rfl
  rw [← length?_sizedText, hmake, htext]

end Pushdown
