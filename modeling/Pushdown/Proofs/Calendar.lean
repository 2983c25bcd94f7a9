import Pushdown.Calendar

/-!
Dates counted day by day: whole years, then whole months, then days. Calendar text is read back,
and what is read is the day, or the second, that was written.
-/
namespace Pushdown

/-! Numbers of a fixed width. -/

/-- The number that ASCII digits write. -/
def digits? (cs : List Char) : Option Nat :=
  if cs ≠ [] ∧ cs.all Char.isDigit then some (Nat.ofDigitChars 10 cs 0) else none

theorem toDigits_isDigit (n : Nat) : ∀ c ∈ Nat.toDigits 10 n, c.isDigit = true :=
  fun _ hc => Nat.isDigit_of_mem_toDigits (by decide) (by decide) hc

@[simp] theorem digits?_toDigits (n : Nat) : digits? (Nat.toDigits 10 n) = some n := by
  have hall : (Nat.toDigits 10 n).all Char.isDigit = true :=
    List.all_eq_true.mpr (toDigits_isDigit n)
  simp [digits?, hall]

theorem length_padded {width n : Nat} (hw : 0 < width) (h : n < Nat.pow 10 width) :
    (padded width n).length = width := by
  have hl := (Nat.length_toDigits_le_iff (by decide : 1 < 10) hw).mpr h
  simp only [padded, List.length_append, List.length_replicate]
  omega

@[simp] theorem digits?_padded (width n : Nat) : digits? (padded width n) = some n := by
  have hall : (padded width n).all Char.isDigit = true := by
    simp only [padded, List.all_append, List.all_replicate, Bool.and_eq_true]
    exact ⟨by split <;> simp, List.all_eq_true.mpr (toDigits_isDigit n)⟩
  have hne : padded width n ≠ [] := by simp [padded]
  have hval : Nat.ofDigitChars 10 (padded width n) 0 = n := by
    simp [padded, Nat.ofDigitChars_append]
  simp only [digits?, hne, hall, hval, ne_eq, not_false_eq_true, and_self, if_true]

theorem padded_two {n : Nat} (h : n < 100) : ∃ a b, padded 2 n = [a, b] := by
  have hl : (padded 2 n).length = 2 := length_padded (by decide) h
  match padded 2 n, hl with
  | [a, b], _ => exact ⟨a, b, rfl⟩

theorem padded_four {n : Nat} (h : n < 10000) : ∃ a b c d, padded 4 n = [a, b, c, d] := by
  have hl : (padded 4 n).length = 4 := length_padded (by decide) h
  match padded 4 n, hl with
  | [a, b, c, d], _ => exact ⟨a, b, c, d, rfl⟩

/-! Days of whole years and months. -/

/-- How many days months of the given lengths have together. -/
def total (lengths : List Nat) : Nat := lengths.foldr (· + ·) 0

@[simp] theorem total_nil : total [] = 0 := rfl

@[simp] theorem total_cons (length : Nat) (rest : List Nat) :
    total (length :: rest) = length + total rest := rfl

def yearLength (year : Nat) : Nat := total (monthLengths year)

def daysInYears : Nat → Nat
  | 0 => 0
  | n + 1 => daysInYears n + yearLength (n + 1)

theorem yearLength_eq (year : Nat) :
    yearLength year = if isLeapYear year then 366 else 365 := by
  unfold yearLength monthLengths
  split <;> rfl

theorem isLeapYear_iff (year : Nat) :
    isLeapYear year = true ↔ year % 4 = 0 ∧ (year % 100 ≠ 0 ∨ year % 400 = 0) := by
  simp [isLeapYear]

theorem daysInYears_eq (n : Nat) : daysInYears n = 365 * n + n / 4 - n / 100 + n / 400 := by
  induction n with
  | zero => rfl
  | succ n ih =>
    rw [daysInYears, ih, yearLength_eq]
    have hleap := isLeapYear_iff (n + 1)
    split
    · rename_i h
      have := hleap.mp h
      omega
    · rename_i h
      have := mt hleap.mpr h
      omega

namespace Date

/-- A date of the calendar, in a year from 1 to 9999. -/
def Valid (d : Date) : Prop :=
  (1 ≤ d.year ∧ d.year ≤ 9999) ∧ (1 ≤ d.month ∧ d.month ≤ 12) ∧
    1 ≤ d.day ∧ d.day ≤ (monthLengths d.year).getD (d.month - 1) 0

instance : DecidablePred Valid := fun _ => inferInstanceAs (Decidable (_ ∧ _))

/-- How many days have passed since 1 January of year 1. -/
def ordinal (d : Date) : Nat :=
  daysInYears (d.year - 1) + total ((monthLengths d.year).take (d.month - 1)) + (d.day - 1)

/-- The day counted from 1 January 1970. -/
def dayNumber (d : Date) : Int := d.ordinal - ordinal ⟨1970, 1, 1⟩

end Date

/-- The place of a day among months: whole months go by, and it falls into the next one. -/
theorem splitMonths_eq {n : Nat} {lengths : List Nat} (month : Nat) (h : n < total lengths) :
    ∃ i day, splitMonths month n lengths = (month + i, day + 1) ∧ i < lengths.length ∧
      total (lengths.take i) + day = n ∧ day < lengths.getD i 0 := by
  induction lengths generalizing month n with
  | nil => simp at h
  | cons length rest ih =>
    by_cases hn : n < length
    · exact ⟨0, n, by simp [splitMonths, hn], by simp, by simp, by simpa using hn⟩
    · rw [total_cons] at h
      obtain ⟨i, day, heq, hi, hsum, hday⟩ := ih (month + 1) (n := n - length) (by omega)
      refine ⟨i + 1, day, ?_, by simpa using hi, ?_, by simpa using hday⟩
      · simp only [splitMonths, hn, if_false, heq]
        congr 1
        omega
      · rw [List.take_succ_cons, total_cons]
        omega

/-- Years that go by within an era, counted in centuries, leap cycles and single years. -/
theorem daysInYears_cycles (era : Nat) {century cycle year : Nat} (hc : century ≤ 3) (hk : cycle ≤ 24)
    (hy : year ≤ 3) : daysInYears (400 * era + 100 * century + 4 * cycle + year) =
      146097 * era + 36524 * century + 1461 * cycle + 365 * year := by
  rw [daysInYears_eq]
  omega

theorem yearLength_cycles (era : Nat) {century cycle year : Nat} (hc : century ≤ 3) (hk : cycle ≤ 24)
    (hy : year ≤ 3) : yearLength (400 * era + 100 * century + 4 * cycle + year + 1) =
      if year = 3 ∧ (cycle = 24 → century = 3) then 366 else 365 := by
  rw [yearLength_eq]
  congr 1
  rw [eq_iff_iff, isLeapYear_iff]
  omega

/-- An ordinal falls into a year, a number of days after its start. -/
theorem Date.ofOrdinal_year (n : Nat) : ∃ year day,
    Date.ofOrdinal n = ⟨year + 1, (splitMonths 1 day (monthLengths (year + 1))).1,
      (splitMonths 1 day (monthLengths (year + 1))).2⟩ ∧
    daysInYears year + day = n ∧ day < yearLength (year + 1) ∧ (n < 3652059 → year < 9999) := by
  let era := n / 146097
  let inEra := n % 146097
  let century := min (inEra / 36524) 3
  let inCentury := inEra - century * 36524
  let cycle := inCentury / 1461
  let inCycle := inCentury % 1461
  let year := min (inCycle / 365) 3
  have hcentury : century ≤ 3 ∧ inEra = century * 36524 + inCentury := by omega
  have hcycle : cycle ≤ 24 ∧ inCentury = 1461 * cycle + inCycle := by omega
  have hyear : year ≤ 3 ∧ inCycle = 365 * year + (inCycle - year * 365) := by omega
  have hdays := daysInYears_cycles era hcentury.1 hcycle.1 hyear.1
  have hlength := yearLength_cycles era hcentury.1 hcycle.1 hyear.1
  refine ⟨400 * era + 100 * century + 4 * cycle + year, inCycle - year * 365, ?_, ?_, ?_, ?_⟩
  · simp only [Date.ofOrdinal]
    rfl
  · rw [hdays]
    omega
  · rw [hlength]
    split <;> omega
  · omega

/-- The date of an ordinal has that ordinal, and it is a date of the calendar. -/
theorem Date.ofOrdinal_spec (n : Nat) : (Date.ofOrdinal n).ordinal = n ∧
    (n < 3652059 → (Date.ofOrdinal n).Valid) := by
  obtain ⟨year, day, hdate, hn, hday, hlast⟩ := Date.ofOrdinal_year n
  obtain ⟨i, rest, hsplit, hi, hsum, hrest⟩ := splitMonths_eq 1 hday
  replace hi : i < 12 := hi
  rw [hdate, hsplit]
  constructor
  · simp only [ordinal, Nat.add_sub_cancel, Nat.add_sub_cancel_left]
    omega
  · intro hlimit
    have := hlast hlimit
    simp only [Valid, Nat.add_sub_cancel_left]
    omega

/-! Text read back. -/

namespace Date

/-- The date that a text with four, two and two digits spells. -/
def read? : List Char → Option Date
  | [y₁, y₂, y₃, y₄, '-', m₁, m₂, '-', d₁, d₂] => do
    let date : Date := ⟨← digits? [y₁, y₂, y₃, y₄], ← digits? [m₁, m₂], ← digits? [d₁, d₂]⟩
    if date.Valid then some date else none
  | _ => none

theorem Valid.day_le {d : Date} (h : d.Valid) : d.day ≤ 31 := by
  obtain ⟨-, -, -, hd⟩ := h
  refine Nat.le_trans hd ?_
  have hall : ∀ l ∈ monthLengths d.year, l ≤ 31 := by
    simp only [monthLengths, List.forall_mem_cons]
    split <;> simp
  rw [List.getD_eq_getElem?_getD]
  cases hl : (monthLengths d.year)[d.month - 1]? with
  | none => simp
  | some l => exact hall l (List.mem_of_getElem? hl)

theorem chars_length {d : Date} (h : d.Valid) : d.chars.length = 10 := by
  have hd := h.day_le
  obtain ⟨hy, hm, -⟩ := h
  obtain ⟨_, _, _, _, h₁⟩ := padded_four (n := d.year) (by omega)
  obtain ⟨_, _, h₂⟩ := padded_two (n := d.month) (by omega)
  obtain ⟨_, _, h₃⟩ := padded_two (n := d.day) (by omega)
  simp [chars, h₁, h₂, h₃]

@[simp] theorem read?_chars {d : Date} (h : d.Valid) : read? d.chars = some d := by
  have hd := h.day_le
  have hym := h
  obtain ⟨hy, hm, -⟩ := hym
  obtain ⟨y₁, y₂, y₃, y₄, hy⟩ := padded_four (n := d.year) (by omega)
  obtain ⟨m₁, m₂, hm⟩ := padded_two (n := d.month) (by omega)
  obtain ⟨d₁, d₂, hday⟩ := padded_two (n := d.day) (by omega)
  have h₁ := digits?_padded 4 d.year
  have h₂ := digits?_padded 2 d.month
  have h₃ := digits?_padded 2 d.day
  rw [hy] at h₁
  rw [hm] at h₂
  rw [hday] at h₃
  simp only [chars, hy, hm, hday, List.cons_append, List.nil_append, read?, h₁, h₂, h₃]
  exact if_pos h

theorem ordinal_eq (d : Date) : d.ordinal = 365 * (d.year - 1) + (d.year - 1) / 4 -
    (d.year - 1) / 100 + (d.year - 1) / 400 + total ((monthLengths d.year).take (d.month - 1)) +
    (d.day - 1) := by
  rw [ordinal, daysInYears_eq]

theorem ordinal_epoch : ordinal ⟨1970, 1, 1⟩ = 719162 := by
  rw [ordinal_eq]
  rfl

theorem ofDay?_isSome {day : Int} :
    (ofDay? day).isSome ↔ -719162 ≤ day ∧ day ≤ 2932896 := by
  unfold ofDay? epochOrdinal ordinalLimit
  dsimp only
  split <;> simp <;> omega

/-- The date of a day is a date of the calendar, and counting days leads back to the day. -/
theorem ofDay?_spec {day : Int} {d : Date} (h : ofDay? day = some d) :
    d.Valid ∧ d.dayNumber = day := by
  unfold ofDay? epochOrdinal ordinalLimit at h
  dsimp only at h
  split at h
  · rename_i hrange
    obtain rfl := Option.some.inj h
    obtain ⟨hord, hvalid⟩ := ofOrdinal_spec (day + 719162).toNat
    refine ⟨hvalid (by omega), ?_⟩
    rw [dayNumber, hord, ordinal_epoch]
    omega
  · simp at h

end Date

namespace Moment

/-- Seconds counted from the start of 1970. -/
def seconds (m : Moment) : Int := m.date.dayNumber * 86400 + m.second

/-- The moment that a date and a time of day spell. -/
def read? (cs : List Char) : Option Moment :=
  match cs.drop 10 with
  | [' ', h₁, h₂, ':', m₁, m₂, ':', s₁, s₂] => do
    let date ← Date.read? (cs.take 10)
    let hour ← digits? [h₁, h₂]
    let minute ← digits? [m₁, m₂]
    let second ← digits? [s₁, s₂]
    if hour < 24 ∧ minute < 60 ∧ second < 60 then
      some ⟨date, hour * 3600 + minute * 60 + second⟩
    else none
  | _ => none

theorem read?_chars {m : Moment} (hd : m.date.Valid) (hs : m.second < 86400) :
    read? m.chars = some m := by
  have hlen := Date.chars_length hd
  obtain ⟨h₁, h₂, hh⟩ := padded_two (n := m.second / 3600) (by omega)
  obtain ⟨m₁, m₂, hm⟩ := padded_two (n := m.second / 60 % 60) (by omega)
  obtain ⟨s₁, s₂, hsec⟩ := padded_two (n := m.second % 60) (by omega)
  have e₁ := digits?_padded 2 (m.second / 3600)
  have e₂ := digits?_padded 2 (m.second / 60 % 60)
  have e₃ := digits?_padded 2 (m.second % 60)
  rw [hh] at e₁
  rw [hm] at e₂
  rw [hsec] at e₃
  have hchars : m.chars = m.date.chars ++ [' ', h₁, h₂, ':', m₁, m₂, ':', s₁, s₂] := by
    simp [chars, hh, hm, hsec]
  have htime : m.second / 3600 * 3600 + m.second / 60 % 60 * 60 + m.second % 60 = m.second := by
    omega
  have hbounds : m.second / 3600 < 24 ∧ m.second / 60 % 60 < 60 ∧ m.second % 60 < 60 := by omega
  simp only [read?, hchars, List.drop_left' hlen, List.take_left' hlen, Date.read?_chars hd, e₁,
    e₂, e₃, Option.bind_eq_bind, Option.bind_some, hbounds, and_self, if_true, htime]

/-- The moment of a millisecond is the whole second that it falls in. -/
theorem ofMillis?_spec {millis : Int} {m : Moment} (h : ofMillis? millis = some m) :
    m.date.Valid ∧ m.second < 86400 ∧ m.seconds = millis.fdiv 1000 := by
  obtain ⟨date, hdate, rfl⟩ := Option.map_eq_some_iff.mp h
  obtain ⟨hvalid, hday⟩ := Date.ofDay?_spec hdate
  have hmod : millis.fdiv 1000 = (millis.fdiv 1000).fdiv 86400 * 86400 +
      (millis.fdiv 1000).fmod 86400 := by
    have := Int.mul_fdiv_add_fmod (millis.fdiv 1000) 86400
    omega
  have hpos := Int.fmod_nonneg_of_pos (millis.fdiv 1000) (by decide : (0 : Int) < 86400)
  have hlt := Int.fmod_lt_of_pos (millis.fdiv 1000) (by decide : (0 : Int) < 86400)
  refine ⟨hvalid, by dsimp only; omega, ?_⟩
  simp only [seconds, hday]
  omega

theorem ofMillis?_isSome {millis : Int} :
    (ofMillis? millis).isSome ↔ -62135596800000 ≤ millis ∧ millis ≤ 253402300799999 := by
  rw [ofMillis?, Option.isSome_map, Date.ofDay?_isSome]
  simp only [Int.fdiv_eq_ediv_of_nonneg _ (by decide : (0 : Int) ≤ 1000),
    Int.fdiv_eq_ediv_of_nonneg _ (by decide : (0 : Int) ≤ 86400)]
  omega

end Moment

end Pushdown
