import Pushdown.Oracle.Types
import Pushdown.Proofs.Condition
import Pushdown.Proofs.Find
import Pushdown.Proofs.Sql.Lexing

/-!
The Oracle data types by name. Every name that begins as a timestamp or an interval does has the
code of one, whatever follows; the names of the built-in types are a part of these.
-/
namespace Pushdown

namespace Oracle

/-- A precision in parentheses, or none. -/
inductive Precision : List Char → Prop
  | absent : Precision []
  | digits {ds : List Char} (h : Sql.Digits ds) : Precision ('(' :: ds ++ [')'])

/-- The names of the built-in timestamps and intervals, each with its code. -/
inductive BuiltIn : List Char → Int → Prop
  | timestamp {p : List Char} (h : Precision p) :
    BuiltIn ("TIMESTAMP".toList ++ p) TypeCode.timestamp.number
  | withTimeZone {p : List Char} (h : Precision p) :
    BuiltIn ("TIMESTAMP".toList ++ p ++ " WITH TIME ZONE".toList) timestampTzCode
  | withLocalTimeZone {p : List Char} (h : Precision p) :
    BuiltIn ("TIMESTAMP".toList ++ p ++ " WITH LOCAL TIME ZONE".toList) timestampLocalTzCode
  | yearToMonth {p : List Char} (h : Precision p) :
    BuiltIn ("INTERVAL YEAR".toList ++ p ++ " TO MONTH".toList) intervalYearCode
  | dayToSecond {p q : List Char} (hp : Precision p) (hq : Precision q) :
    BuiltIn ("INTERVAL DAY".toList ++ p ++ " TO SECOND".toList ++ q) intervalDayCode

/-- How the names of timestamps and intervals begin. -/
def fronts : List String := ["TIMESTAMP", "INTERVAL YEAR", "INTERVAL DAY"]

/-- A folded name that is taken for that of a timestamp or an interval. -/
def Reserved (name : String) : Prop := ∃ front ∈ fronts, front.toList <+: name.toList

theorem startsWith_iff {front s : String} :
    startsWith front s = true ↔ front.toList <+: s.toList := by
  simp [startsWith]

theorem mentions_iff {piece s : String} :
    mentions piece s = true ↔ piece.toList <:+: s.toList := Text.occurs_iff

theorem reserved_iff {name : String} : Reserved name ↔
    startsWith "TIMESTAMP" name = true ∨ startsWith "INTERVAL YEAR" name = true ∨
      startsWith "INTERVAL DAY" name = true := by
  simp [Reserved, fronts, startsWith_iff]

/-- A precision has digits and parentheses only. -/
theorem Precision.not_mem {p : List Char} (h : Precision p) {c : Char}
    (hc : c ≠ '(' ∧ c ≠ ')' ∧ c.isDigit = false) : c ∉ p := by
  cases h with
  | absent => simp
  | digits hd =>
    have hdigit : c ∉ _ := fun hm => Bool.false_ne_true (hc.2.2.symm.trans (hd.2 c hm))
    simp [hc.1, hc.2.1, hdigit]

theorem BuiltIn.underscore_not_mem {name : List Char} {code : Int} (h : BuiltIn name code) :
    '_' ∉ name := by
  have hprecision {p : List Char} (hp : Precision p) : '_' ∉ p := hp.not_mem (by decide)
  cases h with
  | timestamp hp => simp [hprecision hp]
  | withTimeZone hp => simp [hprecision hp]
  | withLocalTimeZone hp => simp [hprecision hp]
  | yearToMonth hp => simp [hprecision hp]
  | dayToSecond hp hq => simp [hprecision hp, hprecision hq]

theorem mentions_eq_false {piece s : String} {c : Char} (hc : c ∈ piece.toList)
    (hs : c ∉ s.toList) : mentions piece s = false := by
  rw [Bool.eq_false_iff]
  exact fun h => hs ((mentions_iff.1 h).subset hc)

/-- The codes of timestamps and intervals. -/
def reservedCodes : List Int :=
  [TypeCode.timestamp.number, timestampTzCode, timestampLocalTzCode, intervalYearCode,
    intervalDayCode]

/-- Columns with one of these codes are timestamps or are left out. -/
theorem logicalType?_of_reserved {code : Int} (h : code ∈ reservedCodes) {size : Option Int}
    {type : LogicalType} (htype : logicalType? code size = some type) : type = .timestamp := by
  simp only [reservedCodes, List.mem_cons, List.not_mem_nil, or_false] at h
  have hknown : TypeCode.ofNumber? TypeCode.timestamp.number = some .timestamp := by decide
  have hvendor : ∀ n ∈ [timestampTzCode, timestampLocalTzCode, intervalYearCode, intervalDayCode],
      TypeCode.ofNumber? n = none := by decide
  obtain rfl | h := h
  · rw [logicalType?, hknown] at htype
    exact (Option.some.inj htype).symm
  · rw [logicalType?, hvendor code (by simpa using h)] at htype
    cases htype

@[simp] theorem logicalType?_other (size : Option Int) :
    logicalType? TypeCode.other.number size = some .varbinary := by
  have h : TypeCode.ofNumber? TypeCode.other.number = some .other := by decide
  simp [logicalType?, h, TypeCode.isSizedText, TypeCode.fixedType?]

section
variable {typeName : String}

theorem typeCode_of_reserved (h : Reserved (foldedTypeName typeName)) :
    typeCode typeName ∈ reservedCodes := by
  rw [reserved_iff] at h
  simp only [typeCode, reservedCodes]
  grind

theorem typeCode_of_not_reserved (h : ¬ Reserved (foldedTypeName typeName)) :
    typeCode typeName =
      (plainTypeCodes.lookup (foldedTypeName typeName)).getD TypeCode.other.number := by
  simp only [reserved_iff, not_or, Bool.not_eq_true] at h
  simp [typeCode, h]

theorem typeCode_of_timestamp {rest : List Char}
    (h : (foldedTypeName typeName).toList = "TIMESTAMP".toList ++ rest) :
    typeCode typeName =
      if mentions "LOCAL TIME ZONE" (foldedTypeName typeName) then timestampLocalTzCode
      else if mentions "TIME ZONE" (foldedTypeName typeName) then timestampTzCode
      else TypeCode.timestamp.number := by
  have hfront : startsWith "TIMESTAMP" (foldedTypeName typeName) = true := by
    rw [startsWith, h]
    rfl
  rw [typeCode, if_pos hfront]

/-- Each built-in timestamp and interval has its own code. -/
theorem typeCode_of_builtIn {code : Int} (h : BuiltIn (foldedTypeName typeName).toList code) :
    typeCode typeName = code := by
  generalize hname : (foldedTypeName typeName).toList = name at h
  cases h with
  | timestamp hp =>
    have hzone : ∀ piece ∈ ["LOCAL TIME ZONE", "TIME ZONE"],
        mentions piece (foldedTypeName typeName) = false := by
      intro piece hpiece
      refine mentions_eq_false (c := 'Z') (by revert piece; decide) ?_
      rw [hname, List.mem_append, not_or]
      exact ⟨by decide, hp.not_mem (by decide)⟩
    rw [typeCode_of_timestamp hname, hzone "LOCAL TIME ZONE" (by simp),
      hzone "TIME ZONE" (by simp)]
    rfl
  | @withTimeZone p hp =>
    have hlocal : mentions "LOCAL TIME ZONE" (foldedTypeName typeName) = false := by
      refine mentions_eq_false (c := 'L') (by decide) ?_
      rw [hname, List.mem_append, List.mem_append, not_or, not_or]
      exact ⟨⟨by decide, hp.not_mem (by decide)⟩, by decide⟩
    have hzone : mentions "TIME ZONE" (foldedTypeName typeName) = true :=
      mentions_iff.2 ⟨"TIMESTAMP".toList ++ p ++ " WITH ".toList, [], by rw [hname]; simp⟩
    rw [typeCode_of_timestamp (hname.trans (List.append_assoc ..)), hlocal, hzone]
    rfl
  | @withLocalTimeZone p hp =>
    have hlocal : mentions "LOCAL TIME ZONE" (foldedTypeName typeName) = true :=
      mentions_iff.2 ⟨"TIMESTAMP".toList ++ p ++ " WITH ".toList, [], by rw [hname]; simp⟩
    rw [typeCode_of_timestamp (hname.trans (List.append_assoc ..)), if_pos hlocal]
  | yearToMonth hp =>
    have hother : startsWith "TIMESTAMP" (foldedTypeName typeName) = false := by
      rw [startsWith, hname]; rfl
    have hfront : startsWith "INTERVAL YEAR" (foldedTypeName typeName) = true := by
      rw [startsWith, hname]; rfl
    rw [typeCode, hother, hfront]
    rfl
  | dayToSecond hp hq =>
    have hother : ∀ front ∈ ["TIMESTAMP", "INTERVAL YEAR"],
        startsWith front (foldedTypeName typeName) = false := by
      intro front hfront
      rw [startsWith, hname]
      revert front
      exact List.forall_mem_cons.2 ⟨rfl, List.forall_mem_singleton.2 rfl⟩
    have hfront : startsWith "INTERVAL DAY" (foldedTypeName typeName) = true := by
      rw [startsWith, hname]; rfl
    rw [typeCode, hother "TIMESTAMP" (by simp), hother "INTERVAL YEAR" (by simp), hfront]
    rfl

/-- A data type that is none of the plain ones is an object type, of opaque bytes that no test is
pushed for, just when its name does not begin as a timestamp or an interval does. -/
theorem typeCode_of_unlisted (typeName : String)
    (hplain : plainTypeCodes.lookup (foldedTypeName typeName) = none) :
    (typeCode typeName = TypeCode.other.number ↔ ¬ Reserved (foldedTypeName typeName)) ∧
    (∀ size, logicalType? (typeCode typeName) size = some .varbinary ↔
      ¬ Reserved (foldedTypeName typeName)) ∧
    (¬ Reserved (foldedTypeName typeName) → ∀ size type,
      logicalType? (typeCode typeName) size = some type →
        ∀ (s : SqlStyle) (column : String) (domain : Domain),
          s.condition column domain type = .ok none) ∧
    ∀ code, BuiltIn (foldedTypeName typeName).toList code → typeCode typeName = code := by
  have hother (h : ¬ Reserved (foldedTypeName typeName)) :
      typeCode typeName = TypeCode.other.number := by
    rw [typeCode_of_not_reserved h, hplain, Option.getD_none]
  refine ⟨⟨fun h hr => ?_, hother⟩, fun size => ⟨fun h hr => ?_, fun h => ?_⟩,
    fun h size type htype s column domain => ?_, fun code => typeCode_of_builtIn⟩
  · have hmem := typeCode_of_reserved hr
    rw [h] at hmem
    exact absurd hmem (by decide)
  · cases logicalType?_of_reserved (typeCode_of_reserved hr) h
  · rw [hother h, logicalType?_other]
  · rw [hother h, logicalType?_other] at htype
    cases htype
    have hskip : Condition.ofDomain column s.dialect .varbinary domain = .ok none :=
      if_pos (by simp [LogicalType.isPushable, LogicalType.kind, TypeKind.isPushable])
    rw [SqlStyle.condition, hskip]
    rfl

theorem typeCode_of_unlisted_geometry :
    plainTypeCodes.lookup (foldedTypeName "sdo_geometry") = none ∧
      typeCode "sdo_geometry" = TypeCode.other.number ∧
      logicalType? (typeCode "sdo_geometry") (some 1) = some .varbinary := by
  have hplain : plainTypeCodes.lookup (foldedTypeName "sdo_geometry") = none := by decide +kernel
  have hname : foldedTypeName "sdo_geometry" = "SDO_GEOMETRY" := by decide +kernel
  obtain ⟨hcode, htype, -, -⟩ := typeCode_of_unlisted "sdo_geometry" hplain
  have hreserved : ¬ Reserved (foldedTypeName "sdo_geometry") := by
    rw [hname, reserved_iff]
    decide
  exact ⟨hplain, hcode.2 hreserved, (htype (some 1)).2 hreserved⟩

/-- An object type named like a timestamp is taken for one, and timestamps are compared with it. -/
theorem object_type_as_timestamp :
    let range : Range := ⟨.greaterThan (some (.int 0)), rfl⟩
    let name := foldedTypeName "TIMESTAMP_RANGE"
    plainTypeCodes.lookup name = none ∧ (∀ code, ¬ BuiltIn name.toList code) ∧
      typeCode "TIMESTAMP_RANGE" = TypeCode.timestamp.number ∧
      typeCode "TIMESTAMP_RANGE" ≠ TypeCode.other.number ∧
      logicalType? (typeCode "TIMESTAMP_RANGE") none = some .timestamp ∧
      SqlStyle.condition ⟨dialect, "\""⟩ "PERIOD" ⟨.some [range] [] (.inl (by simp)), false⟩
        .timestamp = .ok (some
          "\"PERIOD\" > TO_TIMESTAMP('1970-01-01 00:00:00', 'yyyy-mm-dd hh24:mi:ss')") := by
  intro range name
  have hname : name = "TIMESTAMP_RANGE" := by decide +kernel
  have hcode : typeCode "TIMESTAMP_RANGE" = TypeCode.timestamp.number := by decide +kernel
  refine ⟨by decide +kernel, fun code h => h.underscore_not_mem ?_, hcode, ?_, ?_, ?_⟩
  · rw [hname]
    decide
  · rw [hcode]
    decide
  · rw [hcode]
    rfl
  · decide +kernel

end
end Oracle
end Pushdown
