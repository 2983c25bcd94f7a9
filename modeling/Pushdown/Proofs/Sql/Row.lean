import Pushdown.Proofs.Calendar
import Pushdown.Proofs.Sql.Formula

/-!
What conditions mean on a row. A comparison with null is unknown, data of different kinds are not
compared, and a constant is read as the kind of data that it is compared with.
-/
namespace Pushdown.Sql

/-- What a column can hold: a day and an instant count days and milliseconds from the start
of 1970. -/
inductive Datum
  | truth (b : Bool)
  | int (n : Int)
  | double (x : FiniteDouble)
  | text (s : String)
  | day (n : Int)
  | instant (n : Int)
  deriving DecidableEq

def orderOf (below same : Bool) : Ordering := if below then .lt else if same then .eq else .gt

namespace Datum

/-- The order within a kind: false before true, numbers by value, text by code point. -/
def compare? : Datum → Datum → Option Ordering
  | .truth a, .truth b => some (orderOf (!a && b) (a == b))
  | .int m, .int n => some (orderOf (decide (m < n)) (decide (m = n)))
  | .double x, .double y =>
    some (orderOf (decide (x.units < y.units)) (decide (x.units = y.units)))
  | .text s, .text t => some (orderOf (decide (s < t)) (decide (s = t)))
  | .day m, .day n => some (orderOf (decide (m < n)) (decide (m = n)))
  | .instant m, .instant n => some (orderOf (decide (m < n)) (decide (m = n)))
  | _, _ => none

instance : LT Datum := ⟨fun x y => x.compare? y = some .lt⟩

theorem lt_iff {x y : Datum} : x < y ↔ x.compare? y = some .lt := Iff.rfl

/-- Whether a column of a type can hold a datum. -/
def Fits (type : LogicalType) : Datum → Prop
  | .truth _ => type = .boolean
  | .int _ => type = .bigint
  | .double _ => type = .double
  | .text _ => type.kind = .varchar
  | .day _ => type = .date
  | .instant _ => type = .timestamp

end Datum

/-- The format that a call which parses a timestamp is given. -/
def timestampFormat : String := "yyyy-mm-dd hh24:mi:ss"

/-- The integer that a number spells, unless it has a fraction or an exponent. -/
def integer? : List Char → Option Int
  | '-' :: cs => (digits? cs).map fun n => -(n : Int)
  | cs => (digits? cs).map fun n => (n : Int)

namespace Constant

/-- What a constant stands for beside a datum. Where a dialect has no constants of their own for
them, one and zero stand for truth values and plain text stands for dates. -/
def beside : Datum → Constant → Option Datum
  | .truth _, .truth b => some (.truth b)
  | .truth _, .number ['1'] => some (.truth true)
  | .truth _, .number ['0'] => some (.truth false)
  | .int _, .number cs => (integer? cs).map .int
  | .double _, .number cs =>
    match readDouble cs with
    | some (.finite x) => some (.double x)
    | _ => none
  | .text _, .string s => some (.text s)
  | .day _, .date s => (Date.read? s.toList).map (.day ·.dayNumber)
  | .day _, .string s => (Date.read? s.toList).map (.day ·.dayNumber)
  | .instant _, .timestamp s => (Moment.read? s.toList).map fun m => .instant (m.seconds * 1000)
  | .instant _, .parsedTimestamp s format =>
    if format = timestampFormat then
      (Moment.read? s.toList).map fun m => .instant (m.seconds * 1000)
    else none
  | _, _ => none

end Constant

def Comparison.admits : Comparison → Ordering → Bool
  | .lt, o => o.isLT
  | .le, o => o.isLE
  | .eq, o => o.isEq
  | .ge, o => o.isGE
  | .gt, o => o.isGT

/-- The columns of a row by name; nothing stands for null. -/
abbrev Row := String → Option Datum

namespace Row

/-- What the left side of a comparison stands for; a constant there is an integer. -/
def datum? (row : Row) : Term → Option Datum
  | .column name => row name
  | .constant k => k.beside (.int 0)

def test (row : Row) : Atom → Truth
  | .compare left op right =>
    match row.datum? left with
    | none => .unknown
    | some x =>
      match (right.beside x).bind x.compare? with
      | some o => .ofBool (Comparison.admits op o)
      | none => .unknown
  | .isNull t => .ofBool (row.datum? t).isNone
  | .isNotNull t => .ofBool (row.datum? t).isSome

end Row

/-! Comparisons within a kind. -/

theorem orderOf_eq_lt {below same : Bool} : orderOf below same = .lt ↔ below = true := by
  cases below <;> cases same <;> decide

theorem orderOf_eq_eq {below same : Bool} :
    orderOf below same = .eq ↔ below = false ∧ same = true := by
  cases below <;> cases same <;> decide

theorem orderOf_eq_gt {below same : Bool} :
    orderOf below same = .gt ↔ below = false ∧ same = false := by
  cases below <;> cases same <;> decide

theorem orderOf_int (m n : Int) :
    (orderOf (decide (m < n)) (decide (m = n)) = .lt ↔ m < n) ∧
      (orderOf (decide (m < n)) (decide (m = n)) = .eq ↔ m = n) ∧
      (orderOf (decide (m < n)) (decide (m = n)) = .gt ↔ n < m) := by
  simp only [orderOf_eq_lt, orderOf_eq_eq, orderOf_eq_gt, decide_eq_true_eq,
    decide_eq_false_iff_not, true_and]
  constructor <;> omega

theorem orderOf_text (s t : String) :
    (orderOf (decide (s < t)) (decide (s = t)) = .lt ↔ s < t) ∧
      (orderOf (decide (s < t)) (decide (s = t)) = .eq ↔ s = t) ∧
      (orderOf (decide (s < t)) (decide (s = t)) = .gt ↔ t < s) := by
  simp only [orderOf_eq_lt, orderOf_eq_eq, orderOf_eq_gt, decide_eq_true_eq,
    decide_eq_false_iff_not, true_and]
  refine ⟨⟨And.right, fun heq => ⟨heq ▸ String.lt_irrefl s, heq⟩⟩, ?_, ?_⟩
  · rintro ⟨hle, hne⟩
    exact Decidable.byContradiction fun hge =>
      hne (String.le_antisymm (String.not_lt.mp hge) (String.not_lt.mp hle))
  · intro h
    exact ⟨String.lt_asymm h, fun heq => String.lt_irrefl t (heq ▸ h)⟩

/-- How a comparison relates two points of an order. -/
def Comparison.Relates {α : Type} [LT α] : Comparison → α → α → Prop
  | .lt, x, y => x < y
  | .le, x, y => x < y ∨ x = y
  | .eq, x, y => x = y
  | .ge, x, y => y < x ∨ x = y
  | .gt, x, y => y < x

theorem Comparison.relates_low {α : Type} [LT α] (inclusive : Bool) (x l : α) :
    Relates (if inclusive then .ge else .gt) x l ↔ l < x ∨ (inclusive = true ∧ l = x) := by
  cases inclusive <;> simp [Relates, eq_comm]

theorem Comparison.relates_high {α : Type} [LT α] (inclusive : Bool) (x h : α) :
    Relates (if inclusive then .le else .lt) x h ↔ x < h ∨ (inclusive = true ∧ x = h) := by
  cases inclusive <;> simp [Relates]

namespace Datum

/-- Data of one kind are ordered: exactly one of the three relations holds. -/
theorem compare?_spec {type : LogicalType} {x y : Datum} (hx : x.Fits type) (hy : y.Fits type)
    (ht : type ≠ .double) : ∃ o, x.compare? y = some o ∧
      (o = .lt ↔ x < y) ∧ (o = .eq ↔ x = y) ∧ (o = .gt ↔ y < x) := by
  cases x with
  | truth a =>
    obtain rfl : type = .boolean := hx
    cases y with
    | truth b => exact ⟨_, rfl, by cases a <;> cases b <;> simp [lt_iff, compare?, orderOf]⟩
    | _ => cases hy
  | int m =>
    obtain rfl : type = .bigint := hx
    cases y with
    | int n => exact ⟨_, rfl, by simpa [lt_iff, compare?, orderOf_eq_lt] using orderOf_int m n⟩
    | _ => cases hy
  | double => exact absurd hx ht
  | text s =>
    cases y with
    | text t => exact ⟨_, rfl, by simpa [lt_iff, compare?, orderOf_eq_lt] using orderOf_text s t⟩
    | _ =>
      obtain rfl := hy
      cases hx
  | day m =>
    obtain rfl : type = .date := hx
    cases y with
    | day n => exact ⟨_, rfl, by simpa [lt_iff, compare?, orderOf_eq_lt] using orderOf_int m n⟩
    | _ => cases hy
  | instant m =>
    obtain rfl : type = .timestamp := hx
    cases y with
    | instant n => exact ⟨_, rfl, by simpa [lt_iff, compare?, orderOf_eq_lt] using orderOf_int m n⟩
    | _ => cases hy

theorem lt_asymm {type : LogicalType} {x y : Datum} (hx : x.Fits type) (hy : y.Fits type)
    (ht : type ≠ .double) (h : x < y) : ¬ y < x := by
  obtain ⟨o, -, hlt, -, hgt⟩ := compare?_spec hx hy ht
  intro h'
  rw [← hlt] at h
  rw [← hgt, h] at h'
  cases h'

end Datum

theorem Comparison.admits_iff {α : Type} [LT α] {x y : α} {o : Ordering} (hlt : o = .lt ↔ x < y)
    (heq : o = .eq ↔ x = y) (hgt : o = .gt ↔ y < x) (op : Comparison) :
    Comparison.admits op o = true ↔ Relates op x y := by
  cases op <;> simp only [Relates, ← hlt, ← heq, ← hgt] <;> cases o <;> simp [Comparison.admits]

theorem Row.test_compare {row : Row} {type : LogicalType} {name : String} {op : Comparison}
    {k : Constant} {x d : Datum} (hrow : row name = some x) (hk : k.beside x = some d)
    (hx : x.Fits type) (hd : d.Fits type) (ht : type ≠ .double) :
    row.test (.compare (.column name) op k) = .holds ↔ Comparison.Relates op x d := by
  obtain ⟨o, ho, hlt, heq, hgt⟩ := Datum.compare?_spec hx hd ht
  have htest : row.test (.compare (.column name) op k) = .ofBool (Comparison.admits op o) := by
    simp [Row.test, Row.datum?, hrow, hk, ho]
  rw [htest, Truth.ofBool_eq_holds]
  exact Comparison.admits_iff hlt heq hgt op

/-- Doubles are compared by value, so that zeros of both signs are the same. -/
theorem Row.test_compare_double {row : Row} {name : String} {op : Comparison} {k : Constant}
    {x y : FiniteDouble} (hrow : row name = some (.double x))
    (hk : k.beside (.double x) = some (.double y)) :
    row.test (.compare (.column name) op k) = .holds ↔
      Comparison.Relates op x.units y.units := by
  have htest : row.test (.compare (.column name) op k) = .ofBool (Comparison.admits op
      (orderOf (decide (x.units < y.units)) (decide (x.units = y.units)))) := by
    simp [Row.test, Row.datum?, hrow, hk, Datum.compare?]
  rw [htest, Truth.ofBool_eq_holds]
  obtain ⟨hlt, heq, hgt⟩ := orderOf_int x.units y.units
  exact Comparison.admits_iff hlt heq hgt op

end Pushdown.Sql
