import Pushdown.Text.Case

/-!
Case maps applied twice. No character that a case map gives is one that it changes, so text that
was folded once stays as it is.
-/
namespace Pushdown.Text

/-! Code points of the tables. -/

/-- A set of code points with one bit for each. -/
def bitmap (ns : List Nat) : Nat := ns.foldr (fun n mask => 1 <<< n ||| mask) 0

theorem testBit_bitmap {ns : List Nat} {n : Nat} : (bitmap ns).testBit n = true ↔ n ∈ ns := by
  induction ns with
  | nil => simp [bitmap]
  | cons m ns ih =>
    have hcons : bitmap (m :: ns) = 1 <<< m ||| bitmap ns := rfl
    rw [hcons, Nat.testBit_or, Bool.or_eq_true, ih, Nat.one_shiftLeft, Nat.testBit_two_pow,
      List.mem_cons, decide_eq_true_eq, eq_comm]

/-- Sets without a common bit have no common element. -/
theorem not_mem_of_bitmap {ms ns : List Nat} (h : bitmap ms &&& bitmap ns = 0) {n : Nat}
    (hn : n ∈ ns) : n ∉ ms := by
  intro hm
  have hbit := congrArg (Nat.testBit · n) h
  simp [testBit_bitmap.mpr hm, testBit_bitmap.mpr hn] at hbit

def Span.points (s : Span) : List Nat :=
  List.range' s.first ((s.last - s.first) / s.stride + 1) s.stride

theorem Span.mem_points {s : Span} {n : Nat} (h : s.has n = true) : n ∈ s.points := by
  simp only [has, Bool.and_eq_true, decide_eq_true_eq, beq_iff_eq] at h
  obtain ⟨⟨hfirst, hlast⟩, hstride⟩ := h
  rw [points, List.mem_range']
  refine ⟨(n - s.first) / s.stride, ?_, ?_⟩
  · exact Nat.lt_succ_of_le (Nat.div_le_div_right (Nat.sub_le_sub_right hlast s.first))
  · have hdiv := Nat.div_add_mod (n - s.first) s.stride
    omega

/-- Where the members of a span move to. -/
def Shift.images (s : Shift) : Span := ⟨s.image, s.apply s.span.last, s.span.stride⟩

theorem Shift.images_has {s : Shift} {n : Nat} (h : s.span.has n = true) :
    s.images.has (s.apply n) = true := by
  simp only [Span.has, Bool.and_eq_true, decide_eq_true_eq] at h ⊢
  obtain ⟨⟨-, hlast⟩, hstride⟩ := h
  have himage : s.apply n - s.image = n - s.span.first := Nat.add_sub_cancel_left ..
  refine ⟨⟨Nat.le_add_right .., ?_⟩, ?_⟩
  · exact Nat.add_le_add_left (Nat.sub_le_sub_right hlast s.span.first) s.image
  · rwa [images, himage]

/-- A code point that is no character stands for the first one. -/
theorem toNat_ofNat_mem {ns : List Nat} {n : Nat} (h : n ∈ ns) : (Char.ofNat n).toNat ∈ 0 :: ns := by
  by_cases hv : n.isValidChar
  · have hn : (Char.ofNat n).toNat = n := by
      rw [Char.ofNat, dif_pos hv]
      rfl
    exact List.mem_cons_of_mem 0 (hn.symm ▸ h)
  · have hzero : (Char.ofNat n).toNat = 0 := by
      rw [Char.ofNat, dif_neg hv]
      rfl
    exact hzero ▸ List.mem_cons_self

variable {shifts : List Shift} {c d : Char}

theorem shifted?_eq_none (h : c.toNat ∉ shifts.flatMap (·.span.points)) :
    shifted? shifts c = none := by
  rw [shifted?, Option.map_eq_none_iff, List.find?_eq_none]
  intro s hs hc
  exact h (List.mem_flatMap.mpr ⟨s, hs, Span.mem_points hc⟩)

theorem shifted?_mem (h : shifted? shifts c = some d) :
    d.toNat ∈ 0 :: shifts.flatMap (·.images.points) := by
  obtain ⟨s, hs, rfl⟩ := Option.map_eq_some_iff.mp h
  have hc := List.find?_some hs
  apply toNat_ofNat_mem
  exact List.mem_flatMap.mpr
    ⟨s, List.mem_of_find?_eq_some hs, Span.mem_points (Shift.images_has hc)⟩

/-! Upper case. -/

/-- The code points of the characters that have another upper form. -/
def upperChanged : List Nat := upperExpansions.map (·.1) ++ upperShifts.flatMap (·.span.points)

/-- The code points in the upper forms of those characters. -/
def upperImages : List Nat :=
  0 :: (upperExpansions.flatMap (·.2) ++ upperShifts.flatMap (·.images.points))

theorem upperImages_settled : bitmap upperChanged &&& bitmap upperImages = 0 := by decide +kernel

theorem upperChar_eq_self (h : c.toNat ∉ upperChanged) : upperChar c = [c] := by
  rw [upperChanged, List.mem_append, not_or] at h
  have hlookup : upperExpansions.lookup c.toNat = none := by
    rw [List.lookup_eq_none_iff]
    intro p hp
    rw [bne_iff_ne]
    intro he
    exact h.1 (List.mem_map.mpr ⟨p, hp, he.symm⟩)
  rw [upperChar, hlookup, shifted?_eq_none h.2, Option.getD_none]

theorem upperExpansions_mem {n : Nat} {ns : List Nat} (h : upperExpansions.lookup n = some ns) :
    (n, ns) ∈ upperExpansions := by
  obtain ⟨before, after, hsplit, -⟩ := List.lookup_eq_some_iff.mp h
  rw [hsplit]
  simp

theorem mem_upperChar (h : d ∈ upperChar c) : upperChar c = [c] ∨ d.toNat ∈ upperImages := by
  unfold upperChar at h ⊢
  cases hl : upperExpansions.lookup c.toNat with
  | some ns =>
    rw [hl] at h
    obtain ⟨n, hn, rfl⟩ := List.mem_map.mp h
    right
    apply toNat_ofNat_mem
    exact List.mem_append_left _ (List.mem_flatMap.mpr ⟨_, upperExpansions_mem hl, hn⟩)
  | none =>
    rw [hl, List.mem_singleton] at h
    cases hs : shifted? upperShifts c with
    | none => exact .inl rfl
    | some e =>
      rw [hs, Option.getD_some] at h
      subst h
      have hmem := List.mem_cons.mp (shifted?_mem hs)
      exact .inr (List.mem_cons.mpr (hmem.imp_right (List.mem_append_right _)))

/-- The characters of an upper form are their own upper forms. -/
theorem upperChar_of_mem (h : d ∈ upperChar c) : upperChar d = [d] := by
  rcases mem_upperChar h with hc | hd
  · rw [hc, List.mem_singleton] at h
    rwa [h]
  · exact upperChar_eq_self (not_mem_of_bitmap upperImages_settled hd)

theorem upperChar_ne_nil (c : Char) : upperChar c ≠ [] := by
  have hfull : (upperExpansions.all fun p => !p.2.isEmpty) = true := by decide +kernel
  unfold upperChar
  cases hl : upperExpansions.lookup c.toNat with
  | some ns => simpa using List.all_eq_true.mp hfull _ (upperExpansions_mem hl)
  | none => simp

theorem upperChars_eq_self {cs : List Char} (h : ∀ c ∈ cs, upperChar c = [c]) :
    upperChars cs = cs := by
  induction cs with
  | nil => rfl
  | cons c cs ih =>
    have hcs := ih fun d hd => h d (by simp [hd])
    rw [upperChars] at hcs ⊢
    rw [List.flatMap_cons, hcs, h c List.mem_cons_self]
    rfl

@[simp] theorem upper_upper (s : String) : upper (upper s) = upper s := by
  have hself : upperChars (upperChars s.toList) = upperChars s.toList := by
    apply upperChars_eq_self
    intro d hd
    obtain ⟨c, -, hc⟩ := List.mem_flatMap.mp hd
    exact upperChar_of_mem hc
  rw [← String.toList_inj, upper_toList, upper_toList, hself]

theorem upper_ne_empty {s : String} (h : s ≠ "") : upper s ≠ "" := by
  intro he
  have hnil : upperChars s.toList = [] := by simpa using congrArg String.toList he
  cases hs : s.toList with
  | nil => exact h (String.toList_inj.mp (by simp [hs]))
  | cons c rest =>
    rw [hs, upperChars, List.flatMap_cons, List.append_eq_nil_iff] at hnil
    exact upperChar_ne_nil c hnil.1

/-! Lower case. -/

/-- The code points of the characters that have another lower form. -/
def lowerChanged : List Nat := 'İ'.toNat :: lowerShifts.flatMap (·.span.points)

/-- The code points in the lower forms of those characters, with both small sigmas. -/
def lowerImages : List Nat :=
  0 :: (['i', '\u0307', 'ς', 'σ'].map Char.toNat ++ lowerShifts.flatMap (·.images.points))

theorem lowerImages_settled : bitmap lowerChanged &&& bitmap lowerImages = 0 := by decide +kernel

theorem sigma_mem_lowerChanged : 'Σ'.toNat ∈ lowerChanged := by
  rw [← testBit_bitmap]
  decide +kernel

/-- A character that is its own lower form wherever it stands. -/
def Settled (c : Char) : Prop := c ≠ 'Σ' ∧ lowerChar c = [c]

theorem settled_of_not_mem (h : c.toNat ∉ lowerChanged) : Settled c := by
  constructor
  · rintro rfl
    exact h sigma_mem_lowerChanged
  · rw [lowerChanged, List.mem_cons, not_or] at h
    have hne : c ≠ 'İ' := fun he => h.1 (congrArg Char.toNat he)
    rw [lowerChar, if_neg hne, shifted?_eq_none h.2, Option.getD_none]

theorem mem_lowerChar (h : d ∈ lowerChar c) : lowerChar c = [c] ∨ d.toNat ∈ lowerImages := by
  unfold lowerChar at h ⊢
  by_cases hc : c = 'İ'
  · rw [if_pos hc] at h
    have hmem : d.toNat ∈ ['i', '\u0307', 'ς', 'σ'].map Char.toNat :=
      List.mem_map_of_mem (List.mem_append_left ['ς', 'σ'] h)
    exact .inr (List.mem_cons_of_mem 0 (List.mem_append_left _ hmem))
  · rw [if_neg hc, List.mem_singleton] at h
    rw [if_neg hc]
    cases hs : shifted? lowerShifts c with
    | none => exact .inl rfl
    | some e =>
      rw [hs, Option.getD_some] at h
      subst h
      have hmem := List.mem_cons.mp (shifted?_mem hs)
      exact .inr (List.mem_cons.mpr (hmem.imp_right (List.mem_append_right _)))

theorem settled_of_mem_lowerImages (h : d.toNat ∈ lowerImages) : Settled d :=
  settled_of_not_mem (not_mem_of_bitmap lowerImages_settled h)

/-- Whatever stands around it, a character of a lower form is settled. -/
theorem settled_of_mem_lowerFrom {b : Bool} {cs : List Char} (h : d ∈ lowerFrom b cs) :
    Settled d := by
  induction cs generalizing b with
  | nil => cases h
  | cons c rest ih =>
    rw [lowerFrom, List.mem_append] at h
    rcases h with h | h
    · split at h
      · apply settled_of_mem_lowerImages
        rw [List.mem_singleton] at h
        subst h
        split <;> simp [lowerImages]
      · rename_i hc
        rcases mem_lowerChar h with hself | hd
        · rw [hself, List.mem_singleton] at h
          exact h ▸ ⟨hc, hself⟩
        · exact settled_of_mem_lowerImages hd
    · exact ih h

theorem lowerFrom_eq_self {b : Bool} {cs : List Char} (h : ∀ c ∈ cs, Settled c) :
    lowerFrom b cs = cs := by
  induction cs generalizing b with
  | nil => rfl
  | cons c rest ih =>
    obtain ⟨hc, hlower⟩ := h c List.mem_cons_self
    rw [lowerFrom, if_neg hc, hlower, ih fun d hd => h d (List.mem_cons_of_mem c hd)]
    rfl

@[simp] theorem lower_lower (s : String) : lower (lower s) = lower s := by
  have hself : lowerChars (lowerChars s.toList) = lowerChars s.toList :=
    lowerFrom_eq_self fun d hd => settled_of_mem_lowerFrom hd
  rw [← String.toList_inj, lower_toList, lower_toList, hself]

end Pushdown.Text
