import Pushdown.Proofs.CalendarText
import Pushdown.Proofs.Literal

/-!
Literals of days and timestamps. Every day of the calendar and every millisecond of it has a
literal, which holds the date or the second that it falls on, and nothing outside the calendar has.
-/
namespace Pushdown

open Gregorian

/-! Text without an apostrophe is quoted as it stands. -/

theorem doubleFrom_of_not_mem {q : Char} {cs : List Char} (h : q ∉ cs) :
    Text.doubleFrom [q] 0 cs = cs := by
  induction cs with
  | nil => rfl
  | cons c cs ih =>
    rw [List.mem_cons, not_or] at h
    rw [Text.doubleFrom_one_cons, if_neg h.1, ih h.2]

theorem quoteString_of_not_mem {s : String} (h : '\'' ∉ s.toList) :
    Text.quoteString s = "'" ++ s ++ "'" := by
  apply String.toList_inj.mp
  simp [Text.enclosed, doubleFrom_of_not_mem h]

theorem Numeral.not_mem {width n : Nat} {cs : List Char} (h : Numeral width n cs) {c : Char}
    (hc : c.isDigit = false) : c ∉ cs := by
  intro hmem
  rw [h.isDigit c hmem] at hc
  cases hc

theorem Date.Spells.apostrophe_not_mem {d : Date} {cs : List Char} (h : d.Spells cs) :
    '\'' ∉ cs := by
  obtain ⟨year, month, day, rfl, hyear, hmonth, hday⟩ := h
  simp [hyear.not_mem, hmonth.not_mem, hday.not_mem]

theorem Moment.Spells.apostrophe_not_mem {m : Moment} {cs : List Char} (h : m.Spells cs) :
    '\'' ∉ cs := by
  obtain ⟨_, _, _, -, -, -, -, date, hour, minute, second, rfl, hdate, hh, hi, hs⟩ := h
  simp [hdate.apostrophe_not_mem, hh.not_mem, hi.not_mem, hs.not_mem]

/-! The texts of the calendar. -/

/-- A day of the calendar has the text of its date. -/
theorem Date.exists_spelling {n : Int} (h : -719162 ≤ n ∧ n ≤ 2932896) :
    ∃ date, Date.ofDay? n = some date ∧ date.Spells date.text.toList ∧ IsDate date ∧
      dayCount date = n := by
  obtain ⟨date, hdate⟩ := Option.isSome_iff_exists.mp (Date.ofDay?_isSome.mpr h)
  obtain ⟨hvalid, hnumber⟩ := Date.ofDay?_spec hdate
  have his := (valid_iff date).mp hvalid
  refine ⟨date, hdate, ?_, his, (dayCount_eq his).trans hnumber⟩
  rw [Date.text, String.toList_ofList]
  exact Date.spells_chars hvalid

/-- A millisecond of the calendar has the text of its second. -/
theorem Moment.exists_spelling {n : Int} (h : -62135596800000 ≤ n ∧ n ≤ 253402300799999) :
    ∃ moment, Moment.ofMillis? n = some moment ∧ moment.Spells moment.text.toList ∧
      IsDate moment.date ∧ moment.secondCount = n.fdiv 1000 := by
  obtain ⟨moment, hmoment⟩ := Option.isSome_iff_exists.mp (Moment.ofMillis?_isSome.mpr h)
  obtain ⟨hvalid, hsecond, hseconds⟩ := Moment.ofMillis?_spec hmoment
  have his := (valid_iff moment.date).mp hvalid
  refine ⟨moment, hmoment, ?_, his, ?_⟩
  · rw [Moment.text, String.toList_ofList]
    exact Moment.spells_chars hvalid hsecond
  · rw [Moment.secondCount, dayCount_eq his, ← hseconds, Moment.seconds]

/-! Literals of the dialects. -/

/-- The literal of a dialect that holds the text of a date. -/
inductive Dialect.DateLiteral (iso : String) : Dialect → String → Prop
  | typed : DateLiteral iso .generic ("DATE '" ++ iso ++ "'")
  | plain : DateLiteral iso Oracle.dialect ("'" ++ iso ++ "'")

/-- The literal of a dialect that holds the text of a moment. -/
inductive Dialect.TimestampLiteral (iso : String) : Dialect → String → Prop
  | typed : TimestampLiteral iso .generic ("TIMESTAMP '" ++ iso ++ "'")
  | parsed : TimestampLiteral iso Oracle.dialect
      ("TO_TIMESTAMP('" ++ iso ++ "', 'yyyy-mm-dd hh24:mi:ss')")

variable {dialect : Dialect} {iso : String}

theorem Dialect.Known.fill_date (hd : dialect.Known) (h : '\'' ∉ iso.toList) :
    ∃ text, Literal.fillLiteral dialect.dateLiteral iso = .ok text ∧
      DateLiteral iso dialect text := by
  rcases hd with rfl | rfl
  · refine ⟨_, Literal.fillLiteral_eq "DATE " "" rfl rfl rfl iso, ?_⟩
    have htext : "DATE " ++ Text.quoteString iso ++ "" = "DATE '" ++ iso ++ "'" := by
      apply String.toList_inj.mp
      simp [quoteString_of_not_mem h]
    exact htext ▸ .typed
  · refine ⟨_, Literal.fillLiteral_eq "" "" rfl rfl rfl iso, ?_⟩
    rw [quoteString_of_not_mem h, String.append_empty, String.empty_append]
    exact .plain

theorem Dialect.Known.fill_timestamp (hd : dialect.Known) (h : '\'' ∉ iso.toList) :
    ∃ text, Literal.fillLiteral dialect.timestampLiteral iso = .ok text ∧
      TimestampLiteral iso dialect text := by
  rcases hd with rfl | rfl
  · refine ⟨_, Literal.fillLiteral_eq "TIMESTAMP " "" rfl rfl rfl iso, ?_⟩
    have htext : "TIMESTAMP " ++ Text.quoteString iso ++ "" = "TIMESTAMP '" ++ iso ++ "'" := by
      apply String.toList_inj.mp
      simp [quoteString_of_not_mem h]
    exact htext ▸ .typed
  · refine ⟨_, Literal.fillLiteral_eq "TO_TIMESTAMP(" ", 'yyyy-mm-dd hh24:mi:ss')" rfl rfl rfl iso,
      ?_⟩
    have htext : "TO_TIMESTAMP(" ++ Text.quoteString iso ++ ", 'yyyy-mm-dd hh24:mi:ss')" =
        "TO_TIMESTAMP('" ++ iso ++ "', 'yyyy-mm-dd hh24:mi:ss')" := by
      apply String.toList_inj.mp
      simp [quoteString_of_not_mem h]
    exact htext ▸ .parsed

namespace Literal

/-- Just the days of the years 1 to 9999 have literals. There is one text for each day, which
spells the date that the day is by the rules of the calendar, and later days have later texts. -/
theorem date_denotes (hd : dialect.Known) (column : String) : ∃ iso : Int → String, ∀ n : Int,
    (-719162 ≤ n ∧ n ≤ 2932896 →
      (∃ text, render column (some (.int n)) dialect .date = .ok text ∧
        Dialect.DateLiteral (iso n) dialect text) ∧
      (∃ date : Date, date.Spells (iso n).toList ∧ IsDate date ∧ dayCount date = n) ∧
      ∀ m, n < m → m ≤ 2932896 → iso n < iso m) ∧
    (¬(-719162 ≤ n ∧ n ≤ 2932896) → render column (some (.int n)) dialect .date =
      .error (.breach ⟨column, .dateOutOfRange, some (.int n)⟩)) := by
  refine ⟨fun n => ((Date.ofDay? n).map Date.text).getD "", fun n => ⟨fun hn => ?_, fun hn => ?_⟩⟩
  · obtain ⟨date, hdate, hspells, his, hcount⟩ := Date.exists_spelling hn
    obtain ⟨text, hfill, hliteral⟩ := hd.fill_date hspells.apostrophe_not_mem
    simp only [hdate, Option.map_some, Option.getD_some]
    refine ⟨⟨text, ?_, hliteral⟩, ⟨date, hspells, his, hcount⟩, fun m hlt hm => ?_⟩
    · simp [render, orBreach, integerOf, hdate, hfill]
    · obtain ⟨later, hlater, hspells', his', hcount'⟩ :=
        Date.exists_spelling (n := m) ⟨by omega, hm⟩
      rw [hlater, Option.map_some, Option.getD_some, String.lt_iff,
        hspells.lt_iff hspells' his his', hcount, hcount']
      exact hlt
  · have hnone : Date.ofDay? n = none := by
      rw [← Option.not_isSome_iff_eq_none, Date.ofDay?_isSome]
      exact hn
    simp [render, orBreach, integerOf, hnone, breach]

/-- The leap day of the year 2000, and the day after the last one. -/
theorem date_denotes_leap_day : Oracle.dialect.Known ∧ ∃ iso : Int → String,
    (-719162 ≤ (11016 : Int) ∧ (11016 : Int) ≤ 2932896) ∧
    (∃ text, render "D" (some (.int 11016)) Oracle.dialect .date = .ok text ∧
      Dialect.DateLiteral (iso 11016) Oracle.dialect text) ∧
    (∃ date : Date, date.Spells (iso 11016).toList ∧ IsDate date ∧ dayCount date = 11016) ∧
    iso 11016 < iso 11017 ∧ ¬(-719162 ≤ (2932897 : Int) ∧ (2932897 : Int) ≤ 2932896) ∧
    render "D" (some (.int 2932897)) Oracle.dialect .date =
      .error (.breach ⟨"D", .dateOutOfRange, some (.int 2932897)⟩) := by
  have hd : Oracle.dialect.Known := .inr rfl
  obtain ⟨iso, hiso⟩ := date_denotes hd "D"
  obtain ⟨hliteral, hdate, hlater⟩ := (hiso 11016).1 (by decide)
  exact ⟨hd, iso, by decide, hliteral, hdate, hlater 11017 (by decide) (by decide), by decide,
    (hiso 2932897).2 (by decide)⟩

/-- Just the milliseconds of the years 1 to 9999 have literals. There is one text of 19 characters
for each second, which spells the date and the time of day that the second is by the rules of the
calendar, and the texts are in the order of the seconds. -/
theorem timestamp_denotes (hd : dialect.Known) (column : String) : ∃ iso : Int → String, ∀ n : Int,
    (-62135596800000 ≤ n ∧ n ≤ 253402300799999 →
      (∃ text, render column (some (.int n)) dialect .timestamp = .ok text ∧
        Dialect.TimestampLiteral (iso n) dialect text) ∧
      (∃ moment : Moment, moment.Spells (iso n).toList ∧ IsDate moment.date ∧
        moment.secondCount = n.fdiv 1000) ∧
      (iso n).length = 19 ∧
      ∀ m, -62135596800000 ≤ m ∧ m ≤ 253402300799999 →
        (n ≤ m → iso n ≤ iso m) ∧ (iso n = iso m ↔ n.fdiv 1000 = m.fdiv 1000)) ∧
    (¬(-62135596800000 ≤ n ∧ n ≤ 253402300799999) →
      render column (some (.int n)) dialect .timestamp =
        .error (.breach ⟨column, .timestampOutOfRange, some (.int n)⟩)) := by
  refine ⟨fun n => ((Moment.ofMillis? n).map Moment.text).getD "",
    fun n => ⟨fun hn => ?_, fun hn => ?_⟩⟩
  · obtain ⟨moment, hmoment, hspells, his, hcount⟩ := Moment.exists_spelling hn
    obtain ⟨text, hfill, hliteral⟩ := hd.fill_timestamp hspells.apostrophe_not_mem
    simp only [hmoment, Option.map_some, Option.getD_some]
    refine ⟨⟨text, ?_, hliteral⟩, ⟨moment, hspells, his, hcount⟩, hspells.length_eq,
      fun m hm => ?_⟩
    · simp [render, orBreach, integerOf, hmoment, hfill]
    · obtain ⟨other, hother, hspells', his', hcount'⟩ := Moment.exists_spelling hm
      rw [hother, Option.map_some, Option.getD_some, ← String.not_lt, String.lt_iff,
        hspells'.lt_iff hspells his' his, ← String.toList_inj, hspells.eq_iff hspells' his his',
        hcount, hcount']
      refine ⟨fun hle => ?_, Iff.rfl⟩
      simp only [Int.fdiv_eq_ediv_of_nonneg _ (by decide : (0 : Int) ≤ 1000)]
      omega
  · have hnone : Moment.ofMillis? n = none := by
      rw [← Option.not_isSome_iff_eq_none, Moment.ofMillis?_isSome]
      exact hn
    simp [render, orBreach, integerOf, hnone, breach]

/-- The last millisecond before 1970 falls into the second before it. -/
theorem timestamp_denotes_before_epoch : Dialect.generic.Known ∧ ∃ iso : Int → String,
    (-62135596800000 ≤ (-1 : Int) ∧ (-1 : Int) ≤ 253402300799999) ∧
    (∃ text, render "T" (some (.int (-1))) .generic .timestamp = .ok text ∧
      Dialect.TimestampLiteral (iso (-1)) .generic text) ∧
    (∃ moment : Moment, moment.Spells (iso (-1)).toList ∧ IsDate moment.date ∧
      moment.secondCount = (-1 : Int).fdiv 1000) ∧
    iso (-1) ≤ iso 0 ∧ iso (-1) ≠ iso 0 ∧ iso (-1) = iso (-1000) ∧
    ¬(-62135596800000 ≤ (253402300800000 : Int) ∧ (253402300800000 : Int) ≤ 253402300799999) ∧
    render "T" (some (.int 253402300800000)) .generic .timestamp =
      .error (.breach ⟨"T", .timestampOutOfRange, some (.int 253402300800000)⟩) := by
  have hd : Dialect.generic.Known := .inl rfl
  obtain ⟨iso, hiso⟩ := timestamp_denotes hd "T"
  obtain ⟨hliteral, hmoment, -, hother⟩ := (hiso (-1)).1 (by decide)
  obtain ⟨hle, heq⟩ := hother 0 (by decide)
  obtain ⟨-, heq'⟩ := hother (-1000) (by decide)
  exact ⟨hd, iso, by decide, hliteral, hmoment, hle (by decide), heq.not.mpr (by decide),
    heq'.mpr (by decide), by decide, (hiso 253402300800000).2 (by decide)⟩

end Literal
end Pushdown
