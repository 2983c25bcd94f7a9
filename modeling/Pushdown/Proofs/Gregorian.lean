import Mathlib.Algebra.BigOperators.Intervals
import Mathlib.Algebra.Order.BigOperators.Group.Finset
import Mathlib.Data.Nat.Count
import Pushdown.Proofs.Calendar

/-!
The Gregorian calendar by its own rules: which years are leap years, how long the months are, and
how many days there are before a date. Dates have these lengths and are counted by these days, and
an earlier date has fewer days before it.
-/
namespace Pushdown
namespace Gregorian

/-- Every fourth year has a day more, but of the full centuries only every fourth. -/
def Leap (year : Nat) : Prop := 4 ∣ year ∧ (100 ∣ year → 400 ∣ year)

instance : DecidablePred Leap := fun _ => inferInstanceAs (Decidable (_ ∧ _))

def monthDays (year month : Nat) : Nat :=
  if month = 2 then if Leap year then 29 else 28
  else if month ∈ [4, 6, 9, 11] then 30 else 31

/-- The days of whole years and whole months that have gone by, and those of the month. -/
def daysThrough (d : Date) : Nat :=
  365 * d.year + Nat.count Leap d.year + ∑ month ∈ Finset.Ico 1 d.month, monthDays d.year month +
    d.day

/-- How many days a date is after 1 January 1970. -/
def dayCount (d : Date) : Int := daysThrough d - daysThrough ⟨1970, 1, 1⟩

/-- A date of the years that four digits can write. -/
structure IsDate (d : Date) : Prop where
  year : 1 ≤ d.year ∧ d.year ≤ 9999
  month : 1 ≤ d.month ∧ d.month ≤ 12
  day : 1 ≤ d.day ∧ d.day ≤ monthDays d.year d.month

theorem leap_iff (year : Nat) : isLeapYear year = true ↔ Leap year := by
  rw [isLeapYear_iff, Leap]
  omega

/-- The year 0 counts as a leap year. -/
theorem count_leap (n : Nat) : Nat.count Leap (n + 1) = n / 4 - n / 100 + n / 400 + 1 := by
  induction n with
  | zero => decide
  | succ n ih =>
    rw [Nat.count_succ, ih]
    have hleap : Leap (n + 1) ↔ _ := (leap_iff (n + 1)).symm.trans (isLeapYear_iff (n + 1))
    split
    · rename_i h
      have := hleap.mp h
      omega
    · rename_i h
      have := mt hleap.mpr h
      omega

theorem monthLengths_eq (year : Nat) :
    monthLengths year = (List.range 12).map fun i => monthDays year (i + 1) := by
  have hfebruary : (if isLeapYear year then 29 else 28) = monthDays year 2 := by
    simp only [leap_iff]
    rfl
  rw [monthLengths, hfebruary]
  rfl

theorem getD_monthLengths (year : Nat) {month : Nat} (h : 1 ≤ month ∧ month ≤ 12) :
    (monthLengths year).getD (month - 1) 0 = monthDays year month := by
  have hindex : month - 1 < 12 := by omega
  have hmonth : month - 1 + 1 = month := by omega
  simp [monthLengths_eq, List.getD_eq_getElem?_getD, hindex, hmonth]

theorem total_take_monthLengths (year : Nat) {n : Nat} (h : n ≤ 12) :
    total ((monthLengths year).take n) = ∑ month ∈ Finset.Ico 1 (n + 1), monthDays year month := by
  have hsum : ∀ ls : List Nat, total ls = ls.sum := by
    intro ls
    induction ls with
    | nil => rfl
    | cons l ls ih => rw [total_cons, ih, List.sum_cons]
  rw [hsum, monthLengths_eq, ← List.map_take, List.take_range, Nat.min_eq_left h,
    Finset.sum_Ico_eq_sum_range, Nat.add_sub_cancel]
  simp only [Nat.add_comm 1]
  rfl

theorem valid_iff (d : Date) : d.Valid ↔ IsDate d := by
  constructor
  · rintro ⟨hy, hm, hd⟩
    rw [getD_monthLengths d.year hm] at hd
    exact ⟨hy, hm, hd⟩
  · rintro ⟨hy, hm, hd⟩
    rw [← getD_monthLengths d.year hm] at hd
    exact ⟨hy, hm, hd⟩

/-- Ordinals count from the first day of year 1, and the 366 days of year 0 come before it. -/
theorem daysThrough_eq {d : Date} (h : IsDate d) : daysThrough d = d.ordinal + 367 := by
  obtain ⟨⟨hy, -⟩, ⟨hm, hm'⟩, hd, -⟩ := h
  obtain ⟨year, hyear⟩ : ∃ year, d.year = year + 1 := ⟨d.year - 1, by omega⟩
  have hmonths := total_take_monthLengths d.year (n := d.month - 1) (by omega)
  rw [Nat.sub_add_cancel hm] at hmonths
  rw [daysThrough, ← hmonths, hyear, count_leap, Date.ordinal_eq, hyear, Nat.add_sub_cancel]
  omega

theorem dayCount_eq {d : Date} (h : IsDate d) : dayCount d = d.dayNumber := by
  have hepoch : IsDate ⟨1970, 1, 1⟩ := ⟨by decide, by decide, by decide⟩
  rw [dayCount, daysThrough_eq h, daysThrough_eq hepoch, Date.dayNumber]
  omega

/-! The order of dates. -/

/-- By year, then by month, then by day. -/
def Before (d e : Date) : Prop :=
  d.year < e.year ∨ d.year = e.year ∧
    (d.month < e.month ∨ d.month = e.month ∧ d.day < e.day)

theorem before_trichotomy (d e : Date) : Before d e ∨ d = e ∨ Before e d := by
  rcases d with ⟨y, m, n⟩
  rcases e with ⟨y', m', n'⟩
  simp only [Before, Date.mk.injEq]
  omega

/-- The days of a month are over before a later month begins. -/
theorem months_le {year month later day : Nat} (hm : 1 ≤ month) (hday : day ≤ monthDays year month)
    (h : month < later) : ∑ m ∈ Finset.Ico 1 month, monthDays year m + day ≤
      ∑ m ∈ Finset.Ico 1 later, monthDays year m := by
  calc ∑ m ∈ Finset.Ico 1 month, monthDays year m + day
      ≤ ∑ m ∈ Finset.Ico 1 (month + 1), monthDays year m := by
        rw [Finset.sum_Ico_succ_top hm]
        omega
    _ ≤ ∑ m ∈ Finset.Ico 1 later, monthDays year m :=
        Finset.sum_le_sum_of_subset (Finset.Ico_subset_Ico_right h)

theorem sum_monthDays (year : Nat) : ∑ m ∈ Finset.Ico 1 13, monthDays year m =
    365 + if Leap year then 1 else 0 := by
  by_cases h : Leap year <;>
    simp [Finset.sum_Ico_eq_sum_range, Finset.sum_range_succ, monthDays, h]

theorem daysThrough_lt {d e : Date} (hd : IsDate d) (he : IsDate e) (h : Before d e) :
    daysThrough d < daysThrough e := by
  have hfirst := he.day.1
  rcases h with hyear | ⟨hyear, hmonth | ⟨hmonth, hday⟩⟩
  · have hover := months_le hd.month.1 hd.day.2 (Nat.lt_succ_of_le hd.month.2)
    rw [sum_monthDays] at hover
    have hleaps := Nat.count_monotone Leap (Nat.succ_le_of_lt hyear)
    rw [Nat.count_succ] at hleaps
    unfold daysThrough
    omega
  · have hover := months_le hd.month.1 hd.day.2 hmonth
    unfold daysThrough
    rw [hyear] at hover ⊢
    omega
  · unfold daysThrough
    rw [hyear, hmonth]
    omega

/-- Later days have later dates. -/
theorem dayCount_lt_iff {d e : Date} (hd : IsDate d) (he : IsDate e) :
    dayCount d < dayCount e ↔ Before d e := by
  have hmono {d e : Date} (hd : IsDate d) (he : IsDate e) (h : Before d e) :
      dayCount d < dayCount e := by
    have := daysThrough_lt hd he h
    unfold dayCount
    omega
  refine ⟨fun hlt => ?_, hmono hd he⟩
  rcases before_trichotomy d e with h | rfl | h
  · exact h
  · exact absurd hlt (lt_irrefl _)
  · exact absurd hlt (hmono he hd h).asymm

end Gregorian
end Pushdown
