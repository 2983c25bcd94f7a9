import Mathlib.Algebra.Group.Nat.Defs
import Mathlib.Data.List.Induction
import Pushdown.Config
import Pushdown.Proofs.Calendar
import Pushdown.Proofs.Except
import Pushdown.Proofs.Find
import Pushdown.Proofs.Trim

/-!
Integers read back. The decimal text of a number is read as that number, unless it has too many
digits; the fetch size that an environment gives has not.
-/
namespace Pushdown

open Text

theorem digitValue?_of_isDigit {c : Char} (h : c.isDigit = true) :
    digitValue? c = some (c.toNat - '0'.toNat) := by
  obtain ⟨hlow, hhigh⟩ := Char.isDigit_iff_toNat.mp h
  have hfirst : (decide (0x30 ≤ c.toNat) && decide (c.toNat < 0x30 + 10)) = true := by
    simp only [Bool.and_eq_true, decide_eq_true_eq]
    exact ⟨hlow, Nat.lt_succ_of_le hhigh⟩
  have hfind : digitZeros.find? (fun z => z ≤ c.toNat && c.toNat < z + 10) = some 0x30 :=
    List.find?_cons_of_pos hfirst
  rw [digitValue?, hfind]
  rfl

/-- No block of digits meets the blanks. -/
theorem isBlank_of_digitValue? {c : Char} {d : Nat} (h : digitValue? c = some d) :
    isBlank c = false := by
  have hgaps : ∀ z ∈ digitZeros, 0x20 < z ∧ (z + 10 ≤ 0x85 ∨ 0xA0 < z) ∧
      (z + 10 ≤ 0x1680 ∨ 0x1680 < z) ∧ (z + 10 ≤ 0x2000 ∨ 0x3000 < z) := by
    decide
  obtain ⟨z, hz, -⟩ := Option.map_eq_some_iff.mp h
  have hblock := List.find?_some hz
  have hgap := hgaps z (List.mem_of_find?_eq_some hz)
  simp only [Bool.and_eq_true, decide_eq_true_eq] at hblock
  simp only [isBlank, isSpace, Bool.or_eq_false_iff, Bool.and_eq_false_iff, decide_eq_false_iff_not,
    beq_eq_false_iff_ne]
  omega

theorem isSpace_of_isDigit {c : Char} (h : c.isDigit = true) : isSpace c = false := by
  have hblank := isBlank_of_digitValue? (digitValue?_of_isDigit h)
  exact Bool.eq_false_iff.mpr fun hspace =>
    Bool.eq_false_iff.mp hblank (isBlank_of_isSpace hspace)

variable {cs : List Char}

theorem ne_of_digitValue? {c mark : Char} {d : Nat} (hc : digitValue? c = some d)
    (hmark : digitValue? mark = none) : c ≠ mark := by
  rintro rfl
  rw [hmark] at hc
  cases hc

/-- A number that begins with a digit has no sign. -/
theorem splitSign_of_digitValue? {c : Char} {d : Nat} (hc : digitValue? c = some d) :
    splitSign (c :: cs) = (false, c :: cs) := by
  have hminus : c ≠ '-' := ne_of_digitValue? hc (by decide)
  have hplus : c ≠ '+' := ne_of_digitValue? hc (by decide)
  unfold splitSign
  split
  · rename_i heq
    exact absurd (List.cons.inj heq).1 hminus
  · rename_i heq
    exact absurd (List.cons.inj heq).1 hplus
  · rfl

theorem splitSign_of_digit {c : Char} (h : c.isDigit = true) :
    splitSign (c :: cs) = (false, c :: cs) :=
  splitSign_of_digitValue? (digitValue?_of_isDigit h)

theorem groupedDigits_of_digits (hne : cs ≠ []) (h : ∀ c ∈ cs, c.isDigit = true) :
    groupedDigits digitValue? cs = some (cs.map fun c => c.toNat - '0'.toNat) := by
  induction cs with
  | nil => exact absurd rfl hne
  | cons c cs ih =>
    have hc := digitValue?_of_isDigit (h c (by simp))
    cases cs with
    | nil => simp [groupedDigits, hc]
    | cons d ds =>
      have hd : ∀ rest, d :: ds ≠ '_' :: rest := by
        rintro rest heq
        cases heq
        exact absurd (h '_' (by simp)) (by decide)
      have hrest := ih (by simp) fun x hx => h x (by simp [hx])
      rw [groupedDigits, hc, hrest]
      · rfl
      · simp
      · exact hd

theorem ofDigits_map (cs : List Char) :
    ofDigits (cs.map fun c => c.toNat - '0'.toNat) = Nat.ofDigitChars 10 cs 0 :=
  List.foldl_map

/-- A number is read from its own digits. -/
theorem readInteger_toDigits (n : Nat) : readInteger (Nat.toDigits 10 n) =
    if maxNumeralDigits < (Nat.toDigits 10 n).length
    then .error (.tooManyDigits (Nat.toDigits 10 n).length) else .ok n := by
  have hdigits := toDigits_isDigit n
  have hne : Nat.toDigits 10 n ≠ [] := by simp
  have hvalue : ofDigits ((Nat.toDigits 10 n).map fun c => c.toNat - '0'.toNat) = n := by
    rw [ofDigits_map, Nat.ofDigitChars_toDigits (by decide) (by decide)]
  generalize Nat.toDigits 10 n = cs at *
  have htrim : trimBy isSpace cs = cs :=
    Trimmed.trimBy_eq (.of_forall fun c hc => isSpace_of_isDigit (hdigits c hc))
  have hsign : splitSign cs = (false, cs) := by
    cases cs with
    | nil => rfl
    | cons c cs => exact splitSign_of_digit (hdigits c (by simp))
  have hrun : cs.span (fun c => c == '_' || (digitValue? c).isSome) = (cs, []) :=
    span_of_forall fun c hc => by simp [digitValue?_of_isDigit (hdigits c hc)]
  simp only [readInteger, htrim, hsign, hrun,
    groupedDigits_of_digits hne hdigits, List.length_map, List.isEmpty_nil, hvalue, signed]
  rfl

theorem ofDigits_lt {ds : List Nat} (h : ∀ d ∈ ds, d < 10) : ofDigits ds < 10 ^ ds.length := by
  induction ds using List.reverseRecOn with
  | nil => decide
  | append_singleton ds d ih =>
    have hd := h d (by simp)
    have hds := ih fun x hx => h x (by simp [hx])
    have hlast : ofDigits (ds ++ [d]) = 10 * ofDigits ds + d := by
      simp [ofDigits, List.foldl_append]
    rw [hlast, List.length_append, List.length_singleton, Nat.pow_succ]
    omega

theorem asciiDigitValue?_lt {c : Char} {d : Nat} (h : asciiDigitValue? c = some d) : d < 10 := by
  unfold asciiDigitValue? at h
  split_ifs at h with hc
  have hle : c.toNat ≤ '9'.toNat := hc.2
  have hnine : '9'.toNat = '0'.toNat + 9 := rfl
  cases h
  omega

theorem readPlain_lt {n : Int} (h : readPlain cs = .ok n) : n.natAbs < 10 ^ maxNumeralDigits := by
  have hsigned : ∀ (run : List Char) negative, run.length ≤ maxNumeralDigits →
      (signed negative (ofDigits (run.filterMap asciiDigitValue?))).natAbs <
        10 ^ maxNumeralDigits := by
    intro run negative hrun
    have hdigits : ∀ d ∈ run.filterMap asciiDigitValue?, d < 10 := by
      intro d hd
      obtain ⟨c, -, hc⟩ := List.mem_filterMap.mp hd
      exact asciiDigitValue?_lt hc
    have habs : ∀ k : Nat, (signed negative k).natAbs = k := by
      intro k
      cases negative <;> simp [signed]
    rw [habs]
    exact (ofDigits_lt hdigits).trans_le
      (Nat.pow_le_pow_right (by decide) ((List.length_filterMap_le _ _).trans hrun))
  unfold readPlain at h
  split at h
  rename_i negative body _
  split at h
  rename_i run rest _
  split at h
  · cases h
  · split_ifs at h
    cases h
    exact Nat.pow_pos (by decide)
  · dsimp only at h
    by_cases hcount : maxNumeralDigits < run.length + if negative then 1 else 0
    · rw [if_pos hcount] at h
      cases h
    · rw [if_neg hcount] at h
      split_ifs at h
      cases h
      exact hsigned run negative (by omega)

/-- An integer that a record writes as text does not have too many digits. -/
theorem readLenient_lt {n : Int} (h : readLenient cs = .ok n) :
    n.natAbs < 10 ^ maxNumeralDigits := by
  unfold readLenient at h
  dsimp only at h
  split at h
  · split at h
    · exact readPlain_lt h
    · cases h
  · exact readPlain_lt h

theorem Checked.app_eq_ok {α β : Type} {f : Checked (α → β)} {a : Checked α} {b : β} :
    f.app a = .ok b ↔ ∃ g x, f = .ok g ∧ a = .ok x ∧ g x = b := by
  cases f <;> cases a <;> simp [Checked.app]

theorem Checked.under_eq_ok {α : Type} {step : PathStep} {x : Checked α} {a : α} :
    Checked.under step x = .ok a ↔ x = .ok a := by
  cases x <;> simp [Checked.under]

namespace Config

variable {fields : Fields} {config : Config}

/-- What a configuration takes from the last two of its fields. -/
theorem parts_of_ofFields (h : ofFields fields = .ok config) :
    (∃ size, fields.getOr "fetch_size" asFetchSize ⟨defaultFetchSize, by decide⟩ = .ok size ∧
      config.fetchSize = size.val) ∧
      fields.getOr "excluded_schemas" asNames [] = .ok config.excludedSchemas := by
  obtain ⟨_, names, hsized, hnames, rfl⟩ := Checked.app_eq_ok.mp h
  obtain ⟨_, size, hfields, hsize, rfl⟩ := Checked.app_eq_ok.mp hsized
  simp only [Checked.app_eq_ok, Checked.start, Except.ok.injEq] at hfields
  obtain ⟨_, _, ⟨_, _, ⟨_, _, ⟨_, _, ⟨_, _, ⟨_, _, rfl, -, rfl⟩, -, rfl⟩, -, rfl⟩, -, rfl⟩, -, rfl⟩,
    -, rfl⟩ := hfields
  exact ⟨⟨size, hsize, rfl⟩, hnames⟩

theorem asFetchSize_text_lt {s : String} {size : FetchSize}
    (h : asFetchSize (.text s) = .ok size) : size.val < 10 ^ maxNumeralDigits := by
  obtain ⟨n, hn, h⟩ := bind_eq_ok.mp h
  have hread : readLenient s.toList = .ok n := by
    rw [Raw.asInteger] at hn
    split at hn <;> cases hn
    assumption
  have hlt := readLenient_lt hread
  split_ifs at h
  · cases h
    exact (show n.toNat ≤ n.natAbs by omega).trans_lt hlt
  · cases h

theorem text_of_envFields {env : EnvFile.Environment} {start name : String} {raw : Raw}
    (h : (envFields env start).lookup name = some raw) : ∃ s, raw = .text s := by
  obtain ⟨before, after, hsplit, -⟩ := List.lookup_eq_some_iff.mp h
  have hmem : (name, raw) ∈ envFields env start := by simp [hsplit]
  obtain ⟨⟨field, suffix⟩, -, hfield⟩ := List.mem_filterMap.mp hmem
  obtain ⟨value, -, heq⟩ := Option.map_eq_some_iff.mp hfield
  cases heq
  exact ⟨value, rfl⟩

/-- The fetch size that an environment gives does not have too many digits. -/
theorem fetchSize_lt_of_ofEnv {env : EnvFile.Environment} {file? : Option String} {start : String}
    (h : ofEnv env file? start = .ok config) : config.fetchSize < 10 ^ maxNumeralDigits := by
  obtain ⟨full, -, h⟩ := bind_eq_ok.mp h
  have hfields : ofFields (envFields full start) = .ok config := by
    cases hf : ofFields (envFields full start) <;> rw [hf] at h <;> cases h
    rfl
  obtain ⟨⟨size, hsize, hconfig⟩, -⟩ := parts_of_ofFields hfields
  rw [hconfig]
  unfold Fields.getOr at hsize
  split at hsize
  · rename_i raw hraw
    obtain ⟨s, rfl⟩ := text_of_envFields hraw
    exact asFetchSize_text_lt (Checked.under_eq_ok.mp hsize)
  · cases hsize
    exact Nat.lt_of_lt_of_le (by decide : defaultFetchSize < 10 ^ 5)
      (Nat.pow_le_pow_right (by decide) (by decide))

end Config
end Pushdown
