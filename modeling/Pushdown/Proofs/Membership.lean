import Pushdown.Proofs.Overflow
import Pushdown.Proofs.Sql.Row

/-!
What domains admit. Values are placed on any order, and a value without a place bounds nothing in
and equals nothing.
-/
namespace Pushdown

open Sql

section
variable {α : Type} [LT α] (place : Value → Option α)

/-- Whether a point is within bounds; a missing side is unlimited. -/
def Bounds.Contains (b : Bounds) (x : α) : Prop :=
  (∀ low, b.low = some low →
    ∃ l, place low = some l ∧ (l < x ∨ (b.lowInclusive = true ∧ l = x))) ∧
  ∀ high, b.high = some high →
    ∃ h, place high = some h ∧ (x < h ∨ (b.highInclusive = true ∧ x = h))

def ValueSet.Contains (x : α) : ValueSet → Prop
  | .all => True
  | .none => False
  | .some ranges values _ =>
    (∃ r ∈ ranges, r.Contains place x) ∨ ∃ v ∈ values, v.bind place = .some x

/-- Whether a domain admits what a column holds; nothing stands for null. -/
def Domain.Admits (d : Domain) : Option α → Prop
  | .none => d.nullAllowed = true
  | .some x => d.set.Contains place x

end

/-- The values that a domain is stated with. -/
def Bounds.operands (b : Bounds) : List Value := b.low.toList ++ b.high.toList

def Domain.operands (d : Domain) : List (Option Value) :=
  d.set.ranges.flatMap (·.operands.map some) ++ d.set.values

/-- The first and the last day of the calendar. -/
def Date.firstDay : Int := Date.dayNumber ⟨1, 1, 1⟩

def Date.lastDay : Int := Date.dayNumber ⟨9999, 12, 31⟩

theorem Date.firstDay_eq : Date.firstDay = -719162 := by
  rw [firstDay, dayNumber, ordinal_eq, ordinal_epoch]
  rfl

theorem Date.lastDay_eq : Date.lastDay = 2932896 := by
  rw [lastDay, dayNumber, ordinal_eq, ordinal_epoch]
  rfl

/-- What a value means in a column of a type: whole numbers are integers, or days or milliseconds
of the calendar. A number with more digits than text can have means nothing. -/
def Value.datum? (type : LogicalType) : Value → Option Datum
  | .bool b => if type = .boolean then some (.truth b) else none
  | .int n =>
    match type with
    | .bigint =>
      if (Nat.toDigits 10 n.natAbs).length ≤ maxNumeralDigits then some (.int n) else none
    | .date => if Date.firstDay ≤ n ∧ n ≤ Date.lastDay then some (.day n) else none
    | .timestamp =>
      if Date.firstDay * 86400000 ≤ n ∧ n < (Date.lastDay + 1) * 86400000 then some (.instant n)
      else none
    | _ => none
  | .text s => if type.kind = .varchar then some (.text s) else none
  | _ => none

/-- The start of the second that an instant falls in; other data stay as they are. -/
def Sql.Datum.wholeSecond : Datum → Datum
  | .instant n => .instant (n.fdiv 1000 * 1000)
  | d => d

/-- The values that mean something in a column, by type. -/
inductive Value.Means : Value → LogicalType → Datum → Prop
  | truth (b : Bool) : Means (.bool b) .boolean (.truth b)
  | int {n : Int} (hdigits : (Nat.toDigits 10 n.natAbs).length ≤ maxNumeralDigits) :
    Means (.int n) .bigint (.int n)
  | text (s : String) (length? : Option VarcharLength) : Means (.text s) (.varchar length?) (.text s)
  | day {n : Int} (hlow : Date.firstDay ≤ n) (hhigh : n ≤ Date.lastDay) :
    Means (.int n) .date (.day n)
  | instant {n : Int} (hlow : Date.firstDay * 86400000 ≤ n)
    (hhigh : n < (Date.lastDay + 1) * 86400000) : Means (.int n) .timestamp (.instant n)

theorem Value.means_of_datum? {type : LogicalType} {v : Value} {d : Datum}
    (h : v.datum? type = some d) : v.Means type d := by
  cases v with
  | bool b =>
    simp only [datum?] at h
    split at h
    · rename_i ht
      cases h
      exact ht ▸ .truth b
    · cases h
  | int n =>
    cases type <;> simp only [datum?, reduceCtorEq, Option.ite_none_right_eq_some] at h
    case bigint =>
      obtain ⟨hdigits, ⟨⟩⟩ := h
      exact .int hdigits
    case date =>
      obtain ⟨⟨hlow, hhigh⟩, ⟨⟩⟩ := h
      exact .day hlow hhigh
    case timestamp =>
      obtain ⟨⟨hlow, hhigh⟩, ⟨⟩⟩ := h
      exact .instant hlow hhigh
  | text s =>
    cases type <;> cases h
    exact .text s _
  | _ => cases h

theorem Value.eq_of_same_int {m n : Int} (h : Value.same (.int m) (.int n) = true) : m = n := by
  have hunits := of_decide_eq_true h
  exact Int.eq_of_mul_eq_mul_right (by have := unitsPerOne_pos; omega) hunits

theorem Value.eq_of_same_bool {a b : Bool} (h : Value.same (.bool a) (.bool b) = true) : a = b := by
  have heq : (if a then (1 : Int) else 0) = if b then 1 else 0 := eq_of_same_int h
  cases a <;> cases b
  case false.false | true.true => rfl
  case false.true | true.false => cases heq

/-- Values that are the same mean the same. -/
theorem Value.Means.eq_of_same {type : LogicalType} {v w : Value} {d e : Datum}
    (hv : v.Means type d) (hw : w.Means type e) (h : v.same w = true) : d = e := by
  cases hv <;> cases hw
  case truth.truth a b => rw [eq_of_same_bool h]
  case text.text s length t =>
    have heq : s = t := of_decide_eq_true h
    rw [heq]
  all_goals rw [eq_of_same_int h]

theorem Value.Means.ne_double {type : LogicalType} {v : Value} {d : Datum} (h : v.Means type d) :
    type ≠ .double := by
  rintro rfl
  cases h

theorem Value.Means.wholeSecond_fits {type : LogicalType} {v : Value} {d : Datum}
    (h : v.Means type d) : d.wholeSecond.Fits type := by
  cases h <;> rfl

/-! Single values. -/

theorem Bounds.single?_eq_some {b : Bounds} {v : Value} (h : b.single? = some v) :
    b.low = some v ∧ b.lowInclusive = true ∧ b.highInclusive = true ∧
      ∃ high, b.high = some high ∧ v.same high = true := by
  unfold single? at h
  split at h
  · rename_i low high hlow hhigh
    split at h
    · rename_i hsame
      obtain rfl := Option.some.inj h
      simp only [Bool.and_eq_true] at hsame
      exact ⟨hlow, hsame.1.1, hsame.1.2, high, hhigh, hsame.2⟩
    · cases h
  · cases h

section
variable {α : Type} [LT α] {place : Value → Option α}

/-- Bounds around a single value contain nothing else. -/
theorem Bounds.contains_single {b : Bounds} {v : Value} {l x : α} (h : b.single? = some v)
    (hv : place v = some l) (hsame : ∀ high, b.high = some high → v.same high = true →
      place high = some l) (hasymm : l < x → ¬ x < l) : b.Contains place x ↔ l = x := by
  obtain ⟨hlow, hli, hhi, high, hhigh, heq⟩ := single?_eq_some h
  have hplace := hsame high hhigh heq
  unfold Contains
  constructor
  · rintro ⟨hbelow, habove⟩
    obtain ⟨l', hl', hbelow⟩ := hbelow v hlow
    obtain ⟨h', hh', habove⟩ := habove high hhigh
    obtain rfl := Option.some.inj (hv.symm.trans hl')
    obtain rfl := Option.some.inj (hplace.symm.trans hh')
    rcases hbelow with hlt | ⟨-, heq⟩
    · rcases habove with hgt | ⟨-, heq⟩
      · exact absurd hgt (hasymm hlt)
      · exact heq.symm
    · exact heq
  · rintro rfl
    refine ⟨fun low hl => ⟨l, ?_, .inr ⟨hli, rfl⟩⟩, fun high' hh => ⟨l, ?_, .inr ⟨hhi, rfl⟩⟩⟩
    · rw [← Option.some.inj (hlow.symm.trans hl), hv]
    · rw [← Option.some.inj (hhigh.symm.trans hh), hplace]

end

end Pushdown
