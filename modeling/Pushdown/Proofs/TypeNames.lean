import Pushdown.Proofs.ColumnTypes
import Pushdown.Proofs.DataTypes
import Pushdown.Proofs.Template

/-!
Lengths from data types to type names. The data types whose columns have a length are those whose
codes take one, and the name that is written for a column shows the length that was reported. The
generic names tell all types apart.
-/
namespace Pushdown

/-- A length as it follows a type name. -/
def lengthText : Option VarcharLength → String
  | none => ""
  | some length => "(" ++ toString length.val ++ ")"

theorem lengthText_inj {length? length?' : Option VarcharLength}
    (h : lengthText length? = lengthText length?') : length? = length?' := by
  have hne (length : VarcharLength) : lengthText (some length) ≠ "" := by
    intro hempty
    have := congrArg String.toList hempty
    simp [lengthText] at this
  cases length? with
  | none =>
    cases length?' with
    | none => rfl
    | some length' => exact absurd h.symm (hne length')
  | some length =>
    cases length?' with
    | none => exact absurd h (hne length)
    | some length' =>
      have hdigits : Nat.toDigits 10 length.val = Nat.toDigits 10 length'.val := by
        have := congrArg String.toList h
        simpa [lengthText] using this
      have hval : length.val = length'.val := by
        rw [← Nat.ofDigitChars_ten_toDigits (n := length.val), hdigits,
          Nat.ofDigitChars_ten_toDigits]
      cases length
      cases length'
      cases hval
      rfl

theorem LogicalType.eq_of_kind_of_length? {type type' : LogicalType} (hk : type.kind = type'.kind)
    (hl : type.length? = type'.length?) : type = type' := by
  cases type <;> cases type' <;> simp_all [kind, length?]

theorem TypeKind.mem_all (k : TypeKind) : k ∈ all := by cases k <;> decide

namespace TypeMapper

theorem generic_typeName_inj {k k' : TypeKind} (h : generic.typeName k = generic.typeName k') :
    k = k' := by
  have hall : ∀ k ∈ TypeKind.all, ∀ k' ∈ TypeKind.all,
      generic.typeName k = generic.typeName k' → k = k' := by decide
  exact hall k k.mem_all k' k'.mem_all h

theorem generic_toPhysical (type : LogicalType) :
    generic.toPhysical type = .ok (generic.typeName type.kind ++ lengthText type.length?) := by
  cases type with
  | varchar length? =>
    cases length? with
    | none => decide
    | some length =>
      have hslot : Text.occurs lengthSlot.toList (generic.typeName .varchar).toList = false := by
        decide
      simp [toPhysical, hslot, lengthText, LogicalType.kind, LogicalType.length?,
        String.append_assoc]
  | _ => decide

/-- The generic names tell all types apart. -/
theorem generic_toPhysical_injective : Function.Injective generic.toPhysical := by
  intro type type' h
  rw [generic_toPhysical, generic_toPhysical] at h
  have htext := congrArg String.toList (Except.ok.inj h)
  rw [String.toList_append, String.toList_append] at htext
  -- A name goes up to the parenthesis that its length begins with.
  have hname (type : LogicalType) : ((generic.typeName type.kind).toList ++
      (lengthText type.length?).toList).takeWhile (· != '(') =
        (generic.typeName type.kind).toList := by
    have hplain : ∀ k ∈ TypeKind.all, (generic.typeName k).toList.all (· != '(') = true := by
      decide
    rw [List.takeWhile_append_of_pos (List.all_eq_true.mp (hplain _ type.kind.mem_all))]
    cases type.length? <;> simp [lengthText]
  have hkind : type.kind = type'.kind := by
    have htake := congrArg (List.takeWhile (· != '(')) htext
    rw [hname, hname] at htake
    exact generic_typeName_inj (String.toList_inj.mp htake)
  rw [hkind, List.append_right_inj] at htext
  exact LogicalType.eq_of_kind_of_length? hkind (lengthText_inj (String.toList_inj.mp htext))

end TypeMapper

namespace Oracle

theorem toPhysical_varchar (length : VarcharLength) :
    typeMapper.toPhysical (.varchar (some length)) =
      .ok ("VARCHAR2(" ++ toString length.val ++ " CHAR)") := by
  have hslot : Text.occurs TypeMapper.lengthSlot.toList (typeMapper.typeName .varchar).toList =
      true := by
    decide
  have hname : (typeMapper.typeName .varchar).toList =
      "VARCHAR2(".toList ++ '{' :: ("length".toList ++ '}' :: " CHAR)".toList) := by
    decide
  rw [TypeMapper.toPhysical, if_pos hslot, Template.fill_slot hname rfl rfl rfl rfl]
  simp [Template.Value.plain]

theorem exists_toPhysical (type : LogicalType) : ∃ name, typeMapper.toPhysical type = .ok name := by
  cases type with
  | varchar length? =>
    cases length? with
    | none => exact ⟨_, rfl⟩
    | some length => exact ⟨_, toPhysical_varchar length⟩
  | _ => exact ⟨_, rfl⟩

/-- The data types whose columns may have a length. -/
def sizedTypes : List String := "LONG" :: characterTypes

/-- A size that says something. -/
def nonzero? (size : Option Int) : Option Int := size.filter (· ≠ 0)

/-- The size that is reported for a column of text: the first of its counts of characters and of
bytes that says something, and for the long type always the bytes. -/
def reportedSize (typeName : String) (dataLength charLength : Option Int) : Option Int :=
  if foldedTypeName typeName ∈ characterTypes then
    (nonzero? charLength).or (nonzero? dataLength)
  else dataLength

/-- The type of a column by what the dictionary tells of its data type. -/
def columnType? (typeName : String) (dataLength charLength precision : Option Int) :
    Option LogicalType :=
  logicalType? (typeCode typeName) (columnSize typeName dataLength charLength precision)

variable {typeName : String} {dataLength charLength precision : Option Int}

theorem typeCode_mem_sizedTextCodes :
    typeCode typeName ∈ sizedTextCodes ↔ foldedTypeName typeName ∈ sizedTypes := by
  by_cases hr : Reserved (foldedTypeName typeName)
  · have hcodes : ∀ code ∈ reservedCodes, code ∉ sizedTextCodes := by decide
    have hnames : ∀ name ∈ sizedTypes, ¬Reserved name := by
      simp only [reserved_iff]
      decide
    exact iff_of_false (hcodes _ (typeCode_of_reserved hr)) fun hname => hnames _ hname hr
  · rw [typeCode_of_not_reserved hr]
    cases hcode : plainTypeCodes.lookup (foldedTypeName typeName) with
    | none =>
      have hlisted : ∀ name ∈ sizedTypes, plainTypeCodes.lookup name ≠ none := by decide
      exact iff_of_false (by decide) fun hname => hlisted _ hname hcode
    | some code =>
      have hentries : ∀ entry ∈ plainTypeCodes,
          (entry.2 ∈ sizedTextCodes ↔ entry.1 ∈ sizedTypes) := by decide
      obtain ⟨before, after, hsplit, -⟩ := List.lookup_eq_some_iff.mp hcode
      exact hentries (foldedTypeName typeName, code) (by simp [hsplit])

theorem declaredLength_of_not_pos {n : Int} (h : ¬0 < n) : declaredLength (some n) = none := by
  simp [declaredLength, Option.filter, h]

theorem declaredLength_of_pos {n : Int} (h : 0 < n) :
    declaredLength (some n) = some (min n maxVarcharLength) := by
  simp [declaredLength, Option.filter, h]

theorem declaredLength_eq_some {size : Option Int} {n : Int} :
    declaredLength size = some n ↔ ∃ s, size = some s ∧ 0 < s ∧ n = min s 2147483647 := by
  have hmax : (maxVarcharLength : Int) = 2147483647 := rfl
  cases size with
  | none => simp [declaredLength]
  | some s =>
    by_cases hs : 0 < s
    · rw [declaredLength_of_pos hs, hmax]
      simp [hs, eq_comm]
    · rw [declaredLength_of_not_pos hs]
      simp [hs]

theorem declaredLength_nonzero? (size : Option Int) :
    declaredLength (nonzero? size) = declaredLength size := by
  rcases size with - | n
  · rfl
  · by_cases hn : n = 0
    · subst hn
      rfl
    · simp [nonzero?, Option.filter, hn]

theorem columnSize_of_character (h : foldedTypeName typeName ∈ characterTypes) :
    columnSize typeName dataLength charLength precision = (nonzero? charLength).or dataLength := by
  rcases charLength with - | n
  · simp [columnSize, chooseSize, h, nonzero?]
  · by_cases hn : n = 0 <;> simp [columnSize, chooseSize, h, nonzero?, Option.filter, hn]

/-- Text has the length that its reported size asks for. -/
theorem declaredLength_columnSize (h : foldedTypeName typeName ∈ sizedTypes) :
    declaredLength (columnSize typeName dataLength charLength precision) =
      declaredLength (reportedSize typeName dataLength charLength) := by
  by_cases hname : foldedTypeName typeName ∈ characterTypes
  · rw [columnSize_of_character hname, reportedSize, if_pos hname]
    cases nonzero? charLength with
    | none => rw [Option.none_or, Option.none_or, declaredLength_nonzero?]
    | some n => rw [Option.some_or, Option.some_or]
  · have hlong : foldedTypeName typeName = "LONG" := (List.mem_cons.mp h).resolve_right hname
    have hbytes : columnSize typeName dataLength charLength precision = dataLength := by
      simp only [columnSize, chooseSize, hlong]
      rfl
    rw [hbytes, reportedSize, if_neg hname]

theorem columnType?_of_mem (h : typeCode typeName ∈ sizedTextCodes) :
    columnType? typeName dataLength charLength precision =
      some (sizedText (columnSize typeName dataLength charLength precision)) :=
  logicalType?_of_mem h _

theorem columnType?_eq_varchar {n : Nat} : (∃ length,
    columnType? typeName dataLength charLength precision = some (.varchar (some length)) ∧
      length.val = n) ↔
    typeCode typeName ∈ sizedTextCodes ∧ ∃ s, reportedSize typeName dataLength charLength = some s ∧
      0 < s ∧ (n : Int) = min s 2147483647 := by
  by_cases hcode : typeCode typeName ∈ sizedTextCodes
  · have hsized : foldedTypeName typeName ∈ sizedTypes := typeCode_mem_sizedTextCodes.mp hcode
    have hlength : (∃ length, columnType? typeName dataLength charLength precision =
        some (.varchar (some length)) ∧ length.val = n) ↔
          declaredLength (columnSize typeName dataLength charLength precision) =
            some (n : Int) := by
      rw [← length?_sizedText, columnType?_of_mem hcode]
      cases sizedText (columnSize typeName dataLength charLength precision) with
      | varchar length? =>
        cases length? with
        | none => simp [LogicalType.length?]
        | some length =>
          constructor
          · rintro ⟨_, htype, rfl⟩
            cases htype
            rfl
          · exact fun h => ⟨length, rfl, Int.natCast_inj.mp (Option.some.inj h)⟩
      | _ => simp [LogicalType.length?]
    rw [hlength, declaredLength_columnSize hsized, declaredLength_eq_some, and_iff_right hcode]
  · refine iff_of_false ?_ fun h => hcode h.1
    rintro ⟨length, htype, -⟩
    cases length?_of_not_mem hcode htype

/-- The type that a column of any data type has, if any, has a name. It has a length just if its
data type takes one and the size reported for it is positive; the length is that size, up to the
longest, and it is the one in the name. -/
theorem keeps_lengths (typeName : String) (dataLength charLength precision : Option Int) :
    (∀ type, columnType? typeName dataLength charLength precision = some type →
      ∃ name, typeMapper.toPhysical type = .ok name) ∧
    (typeCode typeName ∈ sizedTextCodes → ∃ type,
      LogicalType.make .varchar
        (declaredLength (columnSize typeName dataLength charLength precision)) = .ok type ∧
      columnType? typeName dataLength charLength precision = some type) ∧
    (typeCode typeName ∈ sizedTextCodes ↔ foldedTypeName typeName ∈ "LONG" :: characterTypes) ∧
    (∀ n : Nat, (∃ length,
      columnType? typeName dataLength charLength precision = some (.varchar (some length)) ∧
        length.val = n) ↔
      typeCode typeName ∈ sizedTextCodes ∧ ∃ s,
        reportedSize typeName dataLength charLength = some s ∧ 0 < s ∧
          (n : Int) = min s 2147483647) ∧
    (∀ length, columnType? typeName dataLength charLength precision =
        some (.varchar (some length)) → 1 ≤ length.val ∧
      typeMapper.toPhysical (.varchar (some length)) =
        .ok ("VARCHAR2(" ++ toString length.val ++ " CHAR)")) ∧
    Function.Injective TypeMapper.generic.toPhysical ∧
    ∀ type, ∃ name, TypeMapper.generic.toPhysical type = .ok name :=
  ⟨fun type _ => exists_toPhysical type,
    fun hcode => ⟨_, make_declaredLength _, columnType?_of_mem hcode⟩, typeCode_mem_sizedTextCodes,
    fun _ => columnType?_eq_varchar, fun length _ => ⟨length.pos, toPhysical_varchar length⟩,
    TypeMapper.generic_toPhysical_injective, fun type => ⟨_, TypeMapper.generic_toPhysical type⟩⟩

/-- Without characters the bytes count, and no length goes past the longest. -/
theorem keeps_lengths_national :
    (∃ length, columnType? " nvarchar2 " (some 120) (some 0) none =
        some (.varchar (some length)) ∧ length.val = 120 ∧
      typeMapper.toPhysical (.varchar (some length)) = .ok "VARCHAR2(120 CHAR)") ∧
    ∃ length, columnType? "Long" (some 4294967296) none (some 7) =
        some (.varchar (some length)) ∧ length.val = 2147483647 ∧
      typeMapper.toPhysical (.varchar (some length)) = .ok "VARCHAR2(2147483647 CHAR)" := by
  obtain ⟨-, -, hshort, hsized, hname, -⟩ := keeps_lengths " nvarchar2 " (some 120) (some 0) none
  obtain ⟨-, -, hlong, hsized', hname', -⟩ := keeps_lengths "Long" (some 4294967296) none (some 7)
  obtain ⟨length, htype, hval⟩ := (hsized 120).mpr
    ⟨hshort.mpr (by decide +kernel), 120, by decide +kernel, by decide, by decide⟩
  obtain ⟨length', htype', hval'⟩ := (hsized' 2147483647).mpr
    ⟨hlong.mpr (by decide +kernel), 4294967296, by decide +kernel, by decide, by decide⟩
  refine ⟨⟨length, htype, hval, ?_⟩, length', htype', hval', ?_⟩
  · rw [(hname length htype).2, hval]
    rfl
  · rw [(hname' length' htype').2, hval']
    rfl

end Oracle
end Pushdown
