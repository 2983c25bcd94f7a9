import Pushdown.Proofs.Find
import Pushdown.Proofs.Literal
import Pushdown.Proofs.Numeral
import Pushdown.Proofs.Shortest

/-!
The text of a double read back. Its digits stand for a number that rounds to the double, and every
layout of the digits is read as that number.
-/
namespace Pushdown

open Sql Text

/-! Layouts. -/

/-- The fraction part of a number: nothing, or digits after a point. -/
def pointed (fraction : List Char) : List Char := if fraction.isEmpty then [] else '.' :: fraction

theorem cutAt_pointed {whole : List Char} (fraction : List Char)
    (hw : ∀ c ∈ whole, c.isDigit = true) :
    (cutAt (· == '.') (whole ++ pointed fraction)).1 = whole ∧
      (cutAt (· == '.') (whole ++ pointed fraction)).2.getD [] = fraction := by
  have hpoint : ∀ c ∈ whole, (c == '.') = false := fun c hc =>
    beq_false_of_ne fun heq => absurd (heq ▸ hw c hc) (by decide)
  cases fraction with
  | nil => simp [pointed, cutAt_of_forall hpoint]
  | cons d fraction => simp [pointed, cutAt_append hpoint]

theorem partDigits_of_digits {cs : List Char} (h : ∀ c ∈ cs, c.isDigit = true) :
    partDigits cs = some (cs.map fun c => c.toNat - '0'.toNat) := by
  cases cs with
  | nil => rfl
  | cons c cs => exact groupedDigits_of_digits (by simp) h

/-- Digits and a point are read up to the mark of the exponent. -/
theorem cutAt_mark {whole fraction : List Char} (hw : ∀ c ∈ whole, c.isDigit = true)
    (hf : ∀ c ∈ fraction, c.isDigit = true) :
    ∀ c ∈ whole ++ pointed fraction, (c == 'e' || c == 'E') = false := by
  have hdigit : ∀ c : Char, c.isDigit = true → (c == 'e' || c == 'E') = false := by
    intro c hc
    rw [Bool.or_eq_false_iff]
    exact ⟨beq_false_of_ne fun heq => absurd (heq ▸ hc) (by decide),
      beq_false_of_ne fun heq => absurd (heq ▸ hc) (by decide)⟩
  intro c hc
  rcases List.mem_append.mp hc with hc | hc
  · exact hdigit c (hw c hc)
  · unfold pointed at hc
    split at hc
    · cases hc
    · rcases List.mem_cons.mp hc with rfl | hc
      · rfl
      · exact hdigit c (hf c hc)

section
variable (negative : Bool) {whole fraction power : List Char} (hw : Digits whole)
  (hf : ∀ c ∈ fraction, c.isDigit = true)
include hw hf

theorem readDecimal_pointed : readDecimal negative (whole ++ pointed fraction) =
    some (.ofDecimal negative (Nat.ofDigitChars 10 (whole ++ fraction) 0) (-fraction.length)) := by
  obtain ⟨hwhole, hfraction⟩ := cutAt_pointed fraction hw.2
  unfold readDecimal
  rw [cutAt_of_forall (cutAt_mark hw.2 hf)]
  dsimp only
  rw [hwhole, hfraction, partDigits_of_digits hw.2, partDigits_of_digits hf]
  simp only [Option.bind_eq_bind, Option.bind_some, ← List.map_append, ofDigits_map,
    List.isEmpty_map]
  simp [hw.1]

theorem readDecimal_marked {sign : Char} (hs : sign = '-' ∨ sign = '+') (hp : Digits power) :
    readDecimal negative (whole ++ pointed fraction ++ 'e' :: sign :: power) =
      some (.ofDecimal negative (Nat.ofDigitChars 10 (whole ++ fraction) 0)
        (signed (sign == '-') (Nat.ofDigitChars 10 power 0) - fraction.length)) := by
  obtain ⟨hwhole, hfraction⟩ := cutAt_pointed fraction hw.2
  have hsign : splitSign (sign :: power) = (sign == '-', power) := by
    rcases hs with rfl | rfl <;> rfl
  unfold readDecimal
  rw [cutAt_append (cutAt_mark hw.2 hf) rfl]
  dsimp only
  rw [hwhole, hfraction, partDigits_of_digits hw.2, partDigits_of_digits hf, hsign,
    groupedDigits_of_digits hp.1 hp.2]
  simp only [Option.bind_eq_bind, Option.bind_some, ← List.map_append, ofDigits_map,
    List.isEmpty_map, Option.map_some]
  simp [hw.1]

end

/-- The sign that is written before a size. -/
theorem signed_natAbs (n : Int) :
    signed ((if n < 0 then '-' else '+') == '-') n.natAbs = n := by
  by_cases hn : n < 0
  · have hneg : -(n.natAbs : Int) = n := by omega
    rw [if_pos hn]
    exact hneg
  · rw [if_neg hn]
    exact Int.natAbs_of_nonneg (by omega)

/-- In every layout digits are read as their number, which zeros may have been added to. -/
theorem readDecimal_decimalText {digits : List Char} (h : Digits digits) (negative : Bool)
    (point : Int) : ∃ zeros : Nat, readDecimal negative (decimalText digits point) =
      some (.ofDecimal negative (10 ^ zeros * Nat.ofDigitChars 10 digits 0)
        (point - digits.length - zeros)) := by
  have hlen := List.length_pos_iff.mpr h.1
  have hpointed {fraction : List Char} (hf : Digits fraction) :
      '.' :: fraction = pointed fraction := by
    simp [pointed, hf.1]
  have hsame {digits digits' : Nat} {exponent exponent' : Int} (hd : digits = digits')
      (he : exponent = exponent') : some (Double.ofDecimal negative digits exponent) =
        some (.ofDecimal negative digits' exponent') := by
    rw [hd, he]
  -- The layouts in their order: all digits after the point, all before it with zeros that fill up
  -- to it, the point among the digits, and a power of ten.
  unfold decimalText
  dsimp only
  split
  · split
    · have hf := h.zeros_append (-point).toNat
      have hread := readDecimal_pointed negative digits_zero hf.2
      rw [← hpointed hf] at hread
      refine ⟨0, hread.trans (hsame ?_ ?_)⟩
      · have hzero : Nat.ofDigitChars 10 ['0'] 0 = 0 := rfl
        rw [Nat.ofDigitChars_append, Nat.ofDigitChars_append, hzero,
          Nat.ofDigitChars_replicate_zero, Nat.mul_zero, pow_zero, Nat.one_mul]
      · simp only [List.length_append, List.length_replicate]
        omega
    · split
      · have hw := h.append_zeros (point.toNat - digits.length)
        have hread := readDecimal_pointed negative hw digits_zero.2
        rw [← hpointed digits_zero] at hread
        refine ⟨point.toNat - digits.length + 1, hread.trans (hsame ?_ ?_)⟩
        · rw [Nat.ofDigitChars_append, Nat.ofDigitChars_append, Nat.ofDigitChars_replicate_zero,
            pow_succ', Nat.mul_assoc]
          rfl
        · simp only [List.length_singleton]
          omega
      · have hw := h.take (n := point.toNat) (by omega)
        have hf := h.drop (n := point.toNat) (by omega)
        have hread := readDecimal_pointed negative hw hf.2
        rw [← hpointed hf] at hread
        refine ⟨0, hread.trans (hsame ?_ ?_)⟩
        · rw [List.take_append_drop, pow_zero, Nat.one_mul]
        · rw [List.length_drop]
          omega
  · have hw := h.take (n := 1) (by decide)
    have hf : ∀ c ∈ digits.drop 1, c.isDigit = true := fun c hc => h.2 c (List.mem_of_mem_drop hc)
    have hp := (digits_toDigits (point - 1).natAbs).zeros_append
      (2 - (Nat.toDigits 10 (point - 1).natAbs).length)
    have hsign : (if point - 1 < 0 then '-' else '+') = '-' ∨
        (if point - 1 < 0 then '-' else '+') = '+' := by
      split <;> simp
    have hread := readDecimal_marked negative hw hf hsign hp
    refine ⟨0, Eq.trans ?_ (hread.trans (hsame ?_ ?_))⟩
    · simp [pointed]
    · rw [List.take_append_drop, pow_zero, Nat.one_mul]
    · rw [List.length_drop, Nat.ofDigitChars_append, Nat.ofDigitChars_replicate_zero, Nat.mul_zero,
        Nat.ofDigitChars_toDigits (by decide) (by decide), signed_natAbs]
      omega

/-! The whole text. -/

theorem Sql.NumberPart.isSpace_of_next? {p p' : NumberPart} {c : Char} (h : p.next? c = some p') :
    isSpace c = false := by
  by_cases hd : c.isDigit = true
  · exact isSpace_of_isDigit hd
  · have hmark : c = '.' ∨ c = 'e' ∨ c = '+' ∨ c = '-' := by
      cases p <;> simp only [next?, hd] at h <;> grind
    rcases hmark with rfl | rfl | rfl | rfl <;> decide

theorem Sql.IsMagnitude.not_space {cs : List Char} (h : IsMagnitude cs) :
    ∀ c ∈ cs, isSpace c = false := by
  obtain ⟨c, rest, part, rfl, hc, hrest, -⟩ := h
  have hall : ∀ (rest : List Char) (p : NumberPart), rest.foldlM NumberPart.next? p = some part →
      ∀ d ∈ rest, isSpace d = false := by
    intro rest
    induction rest with
    | nil => simp
    | cons d rest ih =>
      intro p h
      rw [List.foldlM_cons] at h
      obtain ⟨p', hd, h⟩ := Option.bind_eq_some_iff.mp h
      exact List.forall_mem_cons.mpr ⟨NumberPart.isSpace_of_next? hd, ih p' h⟩
  exact List.forall_mem_cons.mpr ⟨isSpace_of_isDigit hc, hall rest .whole hrest⟩

theorem toLower_of_digit {c : Char} (h : c.isDigit = true) : c.toLower = c := by
  obtain ⟨-, hhigh⟩ := Char.isDigit_iff_toNat.mp h
  unfold Char.toLower
  refine dif_neg fun hupper => ?_
  have hlow : 65 ≤ c.toNat := hupper.1
  have hle : c.toNat ≤ 57 := hhigh
  omega

/-- A signed magnitude is read as a decimal. -/
theorem readDouble_of_magnitude {cs : List Char} (h : IsMagnitude cs) (negative : Bool) :
    readDouble (if negative then '-' :: cs else cs) = readDecimal negative cs := by
  have hspace := h.not_space
  obtain ⟨c, rest, part, rfl, hc, -⟩ := h
  have htrim : trimBy isSpace (if negative then '-' :: c :: rest else c :: rest) =
      if negative then '-' :: c :: rest else c :: rest := by
    refine Trimmed.trimBy_eq (.of_forall ?_)
    cases negative with
    | false => exact hspace
    | true => exact List.forall_mem_cons.mpr ⟨rfl, hspace⟩
  have hsplit : splitSign (if negative then '-' :: c :: rest else c :: rest) =
      (negative, c :: rest) := by
    cases negative with
    | false => exact splitSign_of_digit hc
    | true => rfl
  have hname (d : Char) (name : List Char) (hd : d.isDigit = false) :
      (c :: rest).map Char.toLower ≠ d :: name := by
    intro heq
    rw [← (List.cons.inj heq).1, toLower_of_digit hc, hc] at hd
    cases hd
  have hnan : (c :: rest).map Char.toLower ≠ "nan".toList := hname 'n' _ rfl
  have hinf : (c :: rest).map Char.toLower ≠ "inf".toList := hname 'i' _ rfl
  have hinfinity : (c :: rest).map Char.toLower ≠ "infinity".toList := hname 'i' _ rfl
  unfold readDouble
  rw [htrim, hsplit]
  dsimp only
  rw [if_neg hnan, if_neg (not_or.mpr ⟨hinf, hinfinity⟩)]

/-- The text of a finite double is read as the double. -/
theorem readDouble_text (x : FiniteDouble) : readDouble x.text.toList = some (.finite x) := by
  unfold FiniteDouble.text
  rw [String.toList_ofList]
  by_cases hx : x.significand = 0
  · have hzero : IsMagnitude ['0', '.', '0'] :=
      isMagnitude_of_parts digits_zero (.inr ⟨_, digits_zero, rfl⟩) (.inl rfl)
    have hshift : x.shift = 0 := x.normal.resolve_right (by rw [hx]; decide)
    rw [if_pos hx]
    refine (readDouble_of_magnitude hzero x.negative).trans ?_
    obtain ⟨negative, significand, shift, hlt, hle, hnormal⟩ := x
    subst hx hshift
    rfl
  · rw [if_neg hx]
    dsimp only
    have hdigits := digits_toDigits x.shortest.1
    obtain ⟨zeros, hread⟩ := readDecimal_decimalText hdigits x.negative
      ((Nat.toDigits 10 x.shortest.1).length + x.shortest.2)
    have hexponent : ((Nat.toDigits 10 x.shortest.1).length + x.shortest.2 -
        (Nat.toDigits 10 x.shortest.1).length - zeros : Int) = x.shortest.2 - zeros := by omega
    rw [Nat.ofDigitChars_toDigits (by decide) (by decide), hexponent,
      Double.ofDecimal_shortest hx] at hread
    exact (readDouble_of_magnitude (isMagnitude_decimalText hdigits _) x.negative).trans hread

end Pushdown
