import Pushdown.Proofs.NamePolicy

/-!
Spellings of one name. Text with the same lower form has the same upper form, but for a few capitals
whose lower form belongs to another capital. A policy compares upper forms, so it knows every
spelling of its names up to those capitals. Main statement: which spellings of a name are hidden.
-/
namespace Pushdown

namespace Text

/-! Shifts that lead back. -/

/-- No span has a code point that was seen before or that an earlier span has. -/
def apartFrom (seen : Nat) : List Shift → Bool
  | [] => true
  | s :: rest =>
    seen &&& bitmap s.span.points == 0 && apartFrom (seen ||| bitmap s.span.points) rest

/-- Of shifts that are apart only one has a code point, and that is found. -/
theorem find?_of_apartFrom {shifts : List Shift} {seen : Nat} (h : apartFrom seen shifts = true)
    {s : Shift} (hs : s ∈ shifts) {n : Nat} (hn : s.span.has n = true) :
    seen.testBit n = false ∧ shifts.find? (·.span.has n) = some s := by
  induction shifts generalizing seen with
  | nil => cases hs
  | cons t rest ih =>
    rw [apartFrom, Bool.and_eq_true, beq_iff_eq] at h
    obtain ⟨happart, hrest⟩ := h
    rcases List.mem_cons.mp hs with rfl | hs
    · have hbit := congrArg (Nat.testBit · n) happart
      constructor
      · simpa [testBit_bitmap.mpr (Span.mem_points hn)] using hbit
      · exact List.find?_cons_of_pos hn
    · obtain ⟨hseen, hfind⟩ := ih hrest hs
      rw [Nat.testBit_or, Bool.or_eq_false_iff] at hseen
      constructor
      · exact hseen.1
      · rw [List.find?_cons_of_neg, hfind]
        intro ht
        rw [testBit_bitmap.mpr (Span.mem_points ht)] at hseen
        cases hseen.2

/-- Every image moves back to where it came from. -/
def Shift.inverse (s : Shift) : Shift := ⟨s.images, s.span.first⟩

theorem Shift.inverse_apply {s : Shift} {n : Nat} (h : s.span.has n = true) :
    s.inverse.apply (s.apply n) = n := by
  simp only [Span.has, Bool.and_eq_true, decide_eq_true_eq] at h
  simp only [apply, inverse, images]
  omega

/-- Equality that is quick to compute. -/
def Shift.same (s t : Shift) : Bool :=
  s.image.beq t.image && (s.span.first.beq t.span.first &&
    (s.span.last.beq t.span.last && s.span.stride.beq t.span.stride))

theorem Shift.eq_of_same {s t : Shift} (h : s.same t = true) : s = t := by
  obtain ⟨⟨first, last, stride⟩, image⟩ := s
  simp only [same, Bool.and_eq_true, Nat.beq_eq] at h
  obtain ⟨rfl, rfl, rfl, rfl⟩ := h
  rfl

/-! Capitals. -/

/-- The capitals that are not the upper forms of their lower forms: I with a dot, the theta symbol,
the capital sharp s, and the signs of ohm, kelvin and ångström. -/
def oneWayCapitals : List Char := ['\u0130', '\u03F4', '\u1E9E', '\u2126', '\u212A', '\u212B']

/-- Text without capitals that do not come back. -/
def TwoWay (s : String) : Prop := ∀ c ∈ s.toList, c ∉ oneWayCapitals

instance (s : String) : Decidable (TwoWay s) := List.decidableBAll _ s.toList

/-! The tables. -/

/-- What the tables are checked for. The upper shifts meet neither each other nor the characters that
have several upper ones, and have characters only. Most lower shifts are undone by one of them; the
others have title case letters, which are not upper forms, or a capital of the list. These capitals
have a lower form and are their own upper forms, but not those of others. -/
theorem tables_checked :
    apartFrom (bitmap (upperExpansions.map (·.1))) upperShifts = true ∧
    upperShifts.all (fun u => decide (u.span.last < 0xD800) ||
      decide (0xDFFF < u.span.first) && decide (u.span.last < 0x110000)) = true ∧
    lowerShifts.all (fun s => upperShifts.any s.inverse.same ||
      s.span.points.all fun n => oneWayCapitals.contains (Char.ofNat n) ||
        upperChar (Char.ofNat (s.apply n)) == upperChar (Char.ofNat n)) = true ∧
    oneWayCapitals.all (fun c => lowerChar c != [c] &&
      (upperChar c == [c] && !(bitmap upperImages).testBit c.toNat)) = true ∧
    upperChar 'ς' = upperChar 'Σ' ∧ upperChar 'σ' = upperChar 'Σ' := by
  decide +kernel

theorem upperChar_of_shift {u : Shift} (hu : u ∈ upperShifts) {n : Nat}
    (hn : u.span.has n = true) : upperChar (Char.ofNat n) = [Char.ofNat (u.apply n)] := by
  obtain ⟨hapart, hcharacters, -⟩ := tables_checked
  have hvalid : n.isValidChar := by
    have hspan := List.all_eq_true.mp hcharacters u hu
    simp only [Span.has, Bool.and_eq_true, Bool.or_eq_true, decide_eq_true_eq] at hn hspan
    unfold Nat.isValidChar
    omega
  have hcode : (Char.ofNat n).toNat = n := by
    rw [Char.ofNat, dif_pos hvalid]
    rfl
  obtain ⟨hseen, hfind⟩ := find?_of_apartFrom hapart hu hn
  have hlookup : upperExpansions.lookup n = none := by
    rw [List.lookup_eq_none_iff]
    intro p hp
    rw [bne_iff_ne]
    rintro rfl
    rw [testBit_bitmap.mpr (List.mem_map_of_mem hp)] at hseen
    cases hseen
  rw [upperChar, hcode, hlookup, shifted?, hcode, hfind]
  rfl

variable {c d : Char} {cs : List Char} {m n s : String}

theorem upperChars_singleton (c : Char) : upperChars [c] = upperChar c := by
  rw [upperChars, List.flatMap_singleton]

theorem upperChars_lowerChar (h : c ∉ oneWayCapitals) : upperChars (lowerChar c) = upperChar c := by
  have hdotted : c ≠ 'İ' := by
    rintro rfl
    exact h List.mem_cons_self
  cases hs : shifted? lowerShifts c with
  | none => rw [lowerChar, if_neg hdotted, hs, Option.getD_none, upperChars_singleton]
  | some d =>
    obtain ⟨-, -, hundone, -⟩ := tables_checked
    obtain ⟨s, hfind, rfl⟩ := Option.map_eq_some_iff.mp hs
    rw [lowerChar, if_neg hdotted, hs, Option.getD_some, upperChars_singleton]
    have hc := List.find?_some hfind
    have hs := List.all_eq_true.mp hundone s (List.mem_of_find?_eq_some hfind)
    rcases Bool.or_eq_true_iff.mp hs with hinverse | hpoints
    · obtain ⟨u, hu, hsame⟩ := List.any_eq_true.mp hinverse
      have hupper := upperChar_of_shift (Shift.eq_of_same hsame ▸ hu) (Shift.images_has hc)
      rw [Shift.inverse_apply hc, Char.ofNat_toNat] at hupper
      -- The capital is an upper form, so it is its own upper form.
      rw [hupper, upperChar_of_mem (hupper ▸ List.mem_singleton_self c)]
    · have hpoint := List.all_eq_true.mp hpoints c.toNat (Span.mem_points hc)
      rw [Char.ofNat_toNat] at hpoint
      rcases Bool.or_eq_true_iff.mp hpoint with hone | heq
      · exact absurd (List.contains_iff_mem.mp hone) h
      · exact beq_iff_eq.mp heq

theorem upperChars_lowerFrom {b : Bool} (h : ∀ c ∈ cs, c ∉ oneWayCapitals) :
    upperChars (lowerFrom b cs) = upperChars cs := by
  induction cs generalizing b with
  | nil => rfl
  | cons c rest ih =>
    have hrest := fun b => ih (b := b) fun d hd => h d (List.mem_cons_of_mem c hd)
    have hcons : upperChars (c :: rest) = upperChar c ++ upperChars rest := List.flatMap_cons
    rw [lowerFrom, upperChars_append, hrest, hcons]
    congr 1
    split
    · rename_i hsigma
      obtain ⟨-, -, -, -, hfinal, hmedial⟩ := tables_checked
      subst hsigma
      rw [upperChars_singleton]
      split
      · exact hfinal
      · exact hmedial
    · exact upperChars_lowerChar (h c List.mem_cons_self)

theorem oneWayCapitals_spec (h : c ∈ oneWayCapitals) :
    lowerChar c ≠ [c] ∧ upperChar c = [c] ∧ c.toNat ∉ upperImages := by
  obtain ⟨-, -, -, hfold, -⟩ := tables_checked
  have hc := List.all_eq_true.mp hfold c h
  rw [Bool.and_eq_true, Bool.and_eq_true, bne_iff_ne, beq_iff_eq, Bool.not_eq_true'] at hc
  obtain ⟨hlower, hupper, himage⟩ := hc
  refine ⟨hlower, hupper, fun hmem => ?_⟩
  rw [testBit_bitmap.mpr hmem] at himage
  cases himage

/-- Nothing that was folded to lower case has a capital that does not come back. -/
theorem twoWay_lower (s : String) : TwoWay (lower s) := by
  intro c hc hone
  rw [lower_toList] at hc
  exact (oneWayCapitals_spec hone).1 (settled_of_mem_lowerFrom hc).2

/-- The capitals of the list are kept in upper case, and no other character becomes one. -/
theorem twoWay_upper : TwoWay (upper s) ↔ TwoWay s := by
  unfold TwoWay
  rw [upper_toList]
  constructor
  · intro h c hc hone
    refine h c (List.mem_flatMap.mpr ⟨c, hc, ?_⟩) hone
    rw [(oneWayCapitals_spec hone).2.1]
    exact List.mem_singleton_self c
  · intro h d hd hone
    obtain ⟨c, hc, hdc⟩ := List.mem_flatMap.mp hd
    rcases mem_upperChar hdc with hself | himage
    · rw [hself, List.mem_singleton] at hdc
      exact h c hc (hdc ▸ hone)
    · exact (oneWayCapitals_spec hone).2.2 himage

/-- Text keeps its upper form in lower case just if all its capitals come back. -/
theorem upper_lower_iff : upper (lower s) = upper s ↔ TwoWay s := by
  constructor
  · intro h
    rw [← twoWay_upper, ← h, twoWay_upper]
    exact twoWay_lower s
  · intro h
    rw [← String.toList_inj, upper_toList, upper_toList, lower_toList]
    exact upperChars_lowerFrom h

/-- Of two spellings with the same lower form, one of which comes back, the other has the same upper
form just if it comes back too. -/
theorem upper_eq_iff_of_lower_eq (h : lower m = lower n) (hm : TwoWay m) :
    upper m = upper n ↔ TwoWay n := by
  constructor
  · intro hupper
    rwa [← twoWay_upper, ← hupper, twoWay_upper]
  · intro hn
    rw [← upper_lower_iff.mpr hm, h, upper_lower_iff.mpr hn]

end Text

namespace NamePolicy

open Text

variable {names extra : List String} {d n : String}

/-- A name is hidden by a given name of the policy or by another one. -/
theorem isSystem_extend_of_mem (hd : d ∈ names ++ extra) :
    ((ofNames names).extend extra).isSystem n = true ↔ Text.upper d = Text.upper n ∨
      ∃ e ∈ names ++ extra, e ≠ d ∧ Text.upper e = Text.upper n := by
  rw [isSystem_extend]
  constructor
  · rintro ⟨e, he, hupper⟩
    by_cases hed : e = d
    · exact .inl (hed ▸ hupper)
    · exact .inr ⟨e, he, hed, hupper⟩
  · rintro (hupper | ⟨e, he, -, hupper⟩)
    · exact ⟨d, hd, hupper⟩
    · exact ⟨e, he, hupper⟩

/-- A policy hides the spellings of its names, the engine's among them, as long as their capitals
come back from lower case. Where the capitals of either spelling do not, only another name of the
policy can hide it. -/
theorem hides_spellings (hd : d ∈ names ++ extra) (hsame : display n = display d) :
    let p := (ofNames names).extend extra
    (TwoWay n → TwoWay d → p.isSystem n = true) ∧
      (¬(TwoWay n ↔ TwoWay d) → (p.isSystem n = true ↔
        ∃ e ∈ names ++ extra, e ≠ d ∧ Text.upper e = Text.upper n)) ∧
      (p.isSystem (display d) = true ↔ TwoWay d ∨
        ∃ e ∈ names ++ extra, e ≠ d ∧ Text.upper e = Text.upper (display d)) := by
  intro p
  refine ⟨fun hn htwo => ?_, fun hdiffer => ?_, ?_⟩
  · rw [isSystem_extend_of_mem hd]
    exact .inl ((upper_eq_iff_of_lower_eq hsame.symm htwo).mpr hn)
  · have hupper : Text.upper d ≠ Text.upper n := by
      intro hupper
      apply hdiffer
      rw [← twoWay_upper (s := n), ← hupper, twoWay_upper]
    rw [isSystem_extend_of_mem hd, or_iff_right hupper]
  · rw [isSystem_extend_of_mem hd, eq_comm, display, upper_lower_iff]

/-- An umlaut has one capital. The small sharp s has two, and the second hides it here. -/
theorem hides_spellings_german :
    let p := (ofNames ["sys"]).extend ["Ärzte", "MAẞ", "mass"]
    p.isSystem "ÄRZTE" = true ∧ p.isSystem (display "Ärzte") = true ∧ p.isSystem "maß" = true := by
  intro p
  have hdoctors : "Ärzte" ∈ ["sys"] ++ ["Ärzte", "MAẞ", "mass"] := by decide
  have hmeasures : "MAẞ" ∈ ["sys"] ++ ["Ärzte", "MAẞ", "mass"] := by decide
  obtain ⟨hsame, -, hshown⟩ := hides_spellings hdoctors (n := "ÄRZTE") (by decide +kernel)
  obtain ⟨-, hdiffer, -⟩ := hides_spellings hmeasures (n := "maß") (by decide +kernel)
  have htwo : TwoWay "Ärzte" := by decide +kernel
  refine ⟨hsame (by decide +kernel) htwo, hshown.mpr (.inl htwo), ?_⟩
  rw [hdiffer (by decide +kernel)]
  exact ⟨"mass", by decide, by decide, by decide +kernel⟩

/-- The engine's spelling of a name that the policy was built from is not hidden. -/
theorem spelling_not_hidden :
    let p := (ofNames ["SYS"]).extend ["STRAẞE"]
    p.isSystem "STRAẞE" = true ∧ display "STRAẞE" = "straße" ∧
      display "straße" = display "STRAẞE" ∧ p.isSystem "straße" = false := by
  decide +kernel

end NamePolicy
end Pushdown
