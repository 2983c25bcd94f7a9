import Pushdown.Proofs.Gregorian

/-!
Calendar text in its order. Numbers of one width stand in the order of their digits, so the text of
an earlier date or moment comes first, character by character.
-/
namespace Pushdown

/-! Digits of one width. -/

section
variable {cs ds : List Char}

theorem chars_eq_iff : cs = ds ↔ ¬ cs < ds ∧ ¬ ds < cs := by
  constructor
  · rintro rfl
    exact ⟨List.lt_irrefl _, List.lt_irrefl _⟩
  · rintro ⟨hle, hge⟩
    exact List.le_antisymm (List.not_lt.mp hge) (List.not_lt.mp hle)

/-- First parts of one length are compared before what follows them. -/
theorem append_lt_append_iff (hlen : cs.length = ds.length) {cs' ds' : List Char} :
    cs ++ cs' < ds ++ ds' ↔ cs < ds ∨ cs = ds ∧ cs' < ds' := by
  induction cs generalizing ds with
  | nil =>
    obtain rfl := List.length_eq_zero_iff.mp hlen.symm
    simp
  | cons c cs ih =>
    cases ds with
    | nil => simp at hlen
    | cons d ds =>
      have hrest := ih (Nat.succ.inj hlen)
      simp only [List.cons_append, List.cons_lt_cons_iff, hrest, List.cons.injEq]
      tauto

theorem append_mark_lt_append_mark_iff (hlen : cs.length = ds.length) (mark : Char)
    {cs' ds' : List Char} : cs ++ mark :: cs' < ds ++ mark :: ds' ↔ cs < ds ∨ cs = ds ∧ cs' < ds' := by
  rw [append_lt_append_iff hlen, List.cons_lt_cons_iff]
  simp

theorem ofDigitChars_lt_of_lt (hlen : cs.length = ds.length) (hc : ∀ c ∈ cs, c.isDigit = true)
    {i j : Nat} (h : i < j) : Nat.ofDigitChars 10 cs i < Nat.ofDigitChars 10 ds j := by
  induction cs generalizing ds i j with
  | nil =>
    obtain rfl := List.length_eq_zero_iff.mp hlen.symm
    exact h
  | cons c cs ih =>
    cases ds with
    | nil => simp at hlen
    | cons d ds =>
      rw [Nat.ofDigitChars_cons, Nat.ofDigitChars_cons]
      obtain ⟨-, hnine⟩ := Char.isDigit_iff_toNat.mp (hc c (by simp))
      have hwidth : '9'.toNat = '0'.toNat + 9 := rfl
      exact ih (Nat.succ.inj hlen) (fun x hx => hc x (by simp [hx])) (by omega)

/-- Digits behind the same number: their order is that of the numbers they write. -/
theorem lt_iff_ofDigitChars_lt (hlen : cs.length = ds.length) (hc : ∀ c ∈ cs, c.isDigit = true)
    (hd : ∀ d ∈ ds, d.isDigit = true) (i : Nat) :
    cs < ds ↔ Nat.ofDigitChars 10 cs i < Nat.ofDigitChars 10 ds i := by
  induction cs generalizing ds i with
  | nil =>
    obtain rfl := List.length_eq_zero_iff.mp hlen.symm
    simp
  | cons c cs ih =>
    cases ds with
    | nil => simp at hlen
    | cons d ds =>
      have hlen' := Nat.succ.inj hlen
      have hc' : ∀ x ∈ cs, x.isDigit = true := fun x hx => hc x (by simp [hx])
      have hd' : ∀ x ∈ ds, x.isDigit = true := fun x hx => hd x (by simp [hx])
      obtain ⟨hzero, -⟩ := Char.isDigit_iff_toNat.mp (hc c (by simp))
      obtain ⟨hzero', -⟩ := Char.isDigit_iff_toNat.mp (hd d (by simp))
      rw [List.cons_lt_cons_iff, Nat.ofDigitChars_cons, Nat.ofDigitChars_cons]
      rcases Nat.lt_trichotomy c.toNat d.toNat with hlt | heq | hgt
      · exact iff_of_true (.inl hlt) (ofDigitChars_lt_of_lt hlen' hc' (by omega))
      · obtain rfl := Char.toNat_inj.mp heq
        rw [← ih hlen' hc' hd']
        simp
      · have hafter := ofDigitChars_lt_of_lt hlen'.symm hd'
          (i := 10 * i + (d.toNat - '0'.toNat)) (j := 10 * i + (c.toNat - '0'.toNat)) (by omega)
        have hne : c ≠ d := by
          rintro rfl
          exact hgt.false
        have hnlt : ¬ c < d := hgt.asymm
        simp only [hne, hnlt, false_and, or_false, false_iff]
        omega

end

/-- The text of a number in decimal digits of a fixed count. -/
def Numeral (width n : Nat) (cs : List Char) : Prop := cs.length = width ∧ digits? cs = some n

namespace Numeral

variable {width m n : Nat} {cs ds : List Char}

theorem padded (hw : 0 < width) (h : n < Nat.pow 10 width) : Numeral width n (padded width n) :=
  ⟨length_padded hw h, digits?_padded width n⟩

theorem isDigit (h : Numeral width n cs) : ∀ c ∈ cs, c.isDigit = true := by
  obtain ⟨-, h⟩ := h
  unfold digits? at h
  split at h
  · rename_i hall
    exact List.all_eq_true.mp hall.2
  · cases h

theorem ofDigitChars_eq (h : Numeral width n cs) : Nat.ofDigitChars 10 cs 0 = n := by
  obtain ⟨-, h⟩ := h
  unfold digits? at h
  split at h
  · exact Option.some.inj h
  · cases h

theorem lt_iff (h : Numeral width m cs) (h' : Numeral width n ds) : cs < ds ↔ m < n := by
  rw [lt_iff_ofDigitChars_lt (h.1.trans h'.1.symm) h.isDigit h'.isDigit 0, h.ofDigitChars_eq,
    h'.ofDigitChars_eq]

theorem eq_iff (h : Numeral width m cs) (h' : Numeral width n ds) : cs = ds ↔ m = n := by
  rw [chars_eq_iff, h.lt_iff h', h'.lt_iff h]
  omega

/-- Numbers that more text follows. -/
theorem append_lt_iff (h : Numeral width m cs) (h' : Numeral width n ds) (mark : Char)
    {rest rest' : List Char} :
    cs ++ mark :: rest < ds ++ mark :: rest' ↔ m < n ∨ m = n ∧ rest < rest' := by
  rw [append_mark_lt_append_mark_iff (h.1.trans h'.1.symm), h.lt_iff h', h.eq_iff h']

end Numeral

open Gregorian

/-- Year, month and day in four, two and two digits, with dashes between them. -/
def Date.Spells (d : Date) (cs : List Char) : Prop :=
  ∃ year month day, cs = year ++ '-' :: (month ++ '-' :: day) ∧
    Numeral 4 d.year year ∧ Numeral 2 d.month month ∧ Numeral 2 d.day day

namespace Date

variable {d e : Date} {cs ds : List Char}

theorem spells_chars (h : d.Valid) : d.Spells d.chars := by
  have hday := h.day_le
  obtain ⟨hy, hm, -⟩ := h
  refine ⟨padded 4 d.year, padded 2 d.month, padded 2 d.day, by simp [chars], ?_, ?_, ?_⟩
  · exact .padded (by decide) (Nat.lt_succ_of_le hy.2)
  · exact .padded (by decide) (hm.2.trans_lt (by decide))
  · exact .padded (by decide) (hday.trans_lt (by decide))

theorem Spells.length_eq (h : d.Spells cs) : cs.length = 10 := by
  obtain ⟨year, month, day, rfl, hyear, hmonth, hday⟩ := h
  simp [hyear.1, hmonth.1, hday.1]

theorem Spells.lt_iff (h : d.Spells cs) (h' : e.Spells ds) (hd : IsDate d) (he : IsDate e) :
    cs < ds ↔ dayCount d < dayCount e := by
  rw [dayCount_lt_iff hd he]
  obtain ⟨year, month, day, rfl, hyear, hmonth, hday⟩ := h
  obtain ⟨year', month', day', rfl, hyear', hmonth', hday'⟩ := h'
  rw [hyear.append_lt_iff hyear', hmonth.append_lt_iff hmonth', hday.lt_iff hday']
  rfl

theorem Spells.eq_iff (h : d.Spells cs) (h' : e.Spells ds) (hd : IsDate d) (he : IsDate e) :
    cs = ds ↔ dayCount d = dayCount e := by
  rw [chars_eq_iff, h.lt_iff h' hd he, h'.lt_iff h he hd]
  omega

end Date

/-- A date, and after a blank hour, minute and second in two digits each, with colons between
them. -/
def Moment.Spells (m : Moment) (cs : List Char) : Prop :=
  ∃ hour minute second : Nat, hour < 24 ∧ minute < 60 ∧ second < 60 ∧
    m.second = hour * 3600 + minute * 60 + second ∧
    ∃ date h i s, cs = date ++ ' ' :: (h ++ ':' :: (i ++ ':' :: s)) ∧
      m.date.Spells date ∧ Numeral 2 hour h ∧ Numeral 2 minute i ∧ Numeral 2 second s

namespace Moment

/-- Seconds from the start of 1970, by the days of the calendar. -/
def secondCount (m : Moment) : Int := dayCount m.date * 86400 + m.second

variable {m n : Moment} {cs ds : List Char}

theorem spells_chars (hd : m.date.Valid) (hs : m.second < 86400) : m.Spells m.chars := by
  refine ⟨m.second / 3600, m.second / 60 % 60, m.second % 60, by omega, by omega, by omega,
    by omega, m.date.chars, padded 2 (m.second / 3600), padded 2 (m.second / 60 % 60),
    padded 2 (m.second % 60), by simp [chars], Date.spells_chars hd, ?_, ?_, ?_⟩
  · exact .padded (by decide) (show m.second / 3600 < 100 by omega)
  · exact .padded (by decide) (show m.second / 60 % 60 < 100 by omega)
  · exact .padded (by decide) (show m.second % 60 < 100 by omega)

theorem Spells.length_eq (h : m.Spells cs) : cs.length = 19 := by
  obtain ⟨hour, minute, second, -, -, -, -, date, h, i, s, rfl, hdate, hh, hi, hs⟩ := h
  simp [hdate.length_eq, hh.1, hi.1, hs.1]

/-- Later moments have later texts. -/
theorem Spells.lt_iff (hm : m.Spells cs) (hn : n.Spells ds) (hmd : IsDate m.date)
    (hnd : IsDate n.date) : cs < ds ↔ m.secondCount < n.secondCount := by
  obtain ⟨hour, minute, second, _, _, _, hsecond, date, h, i, s, rfl, hdate, hh, hi, hs⟩ := hm
  obtain ⟨hour', minute', second', _, _, _, hsecond', date', h', i', s', rfl, hdate', hh', hi',
    hs'⟩ := hn
  have hlen := hdate.length_eq.trans hdate'.length_eq.symm
  rw [append_mark_lt_append_mark_iff hlen, hdate.lt_iff hdate' hmd hnd,
    hdate.eq_iff hdate' hmd hnd, hh.append_lt_iff hh', hi.append_lt_iff hi', hs.lt_iff hs']
  unfold secondCount
  omega

theorem Spells.eq_iff (hm : m.Spells cs) (hn : n.Spells ds) (hmd : IsDate m.date)
    (hnd : IsDate n.date) : cs = ds ↔ m.secondCount = n.secondCount := by
  rw [chars_eq_iff, hm.lt_iff hn hmd hnd, hn.lt_iff hm hnd hmd]
  omega

end Moment
end Pushdown
