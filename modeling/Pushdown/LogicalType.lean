/-!
Column types as the engine knows them. Text alone may carry a length, and a length is positive
and bounded.
-/
namespace Pushdown

inductive TypeKind
  | boolean | bigint | double | varchar | varbinary | date | time | timestamp
  deriving DecidableEq, Repr

namespace TypeKind

def name : TypeKind → String
  | .boolean => "boolean"
  | .bigint => "bigint"
  | .double => "double"
  | .varchar => "varchar"
  | .varbinary => "varbinary"
  | .date => "date"
  | .time => "time"
  | .timestamp => "timestamp"

def all : List TypeKind :=
  [.boolean, .bigint, .double, .varchar, .varbinary, .date, .time, .timestamp]

def ofName? (s : String) : Option TypeKind := all.find? (·.name == s)

end TypeKind

/-- The longest length, 2³¹ - 1. -/
def maxVarcharLength : Nat := 2147483647

structure VarcharLength where
  val : Nat
  pos : 0 < val
  le_max : val ≤ maxVarcharLength
  deriving DecidableEq, Repr

inductive LogicalType
  | boolean
  | bigint
  | double
  | varchar (length? : Option VarcharLength)
  | varbinary
  | date
  | time
  | timestamp
  deriving DecidableEq, Repr

inductive TypeFault
  | lengthNotTaken (kind : TypeKind)
  | lengthOutOfRange (length : Int)
  deriving DecidableEq, Repr

def TypeFault.message : TypeFault → String
  | .lengthNotTaken kind => "Type " ++ kind.name ++ " does not take a length"
  | .lengthOutOfRange length => "Invalid varchar length: " ++ toString length

namespace LogicalType

def kind : LogicalType → TypeKind
  | .boolean => .boolean
  | .bigint => .bigint
  | .double => .double
  | .varchar _ => .varchar
  | .varbinary => .varbinary
  | .date => .date
  | .time => .time
  | .timestamp => .timestamp

def length? : LogicalType → Option VarcharLength
  | .varchar length? => length?
  | _ => none

/-- The type of a kind without a length. -/
def ofKind : TypeKind → LogicalType
  | .boolean => .boolean
  | .bigint => .bigint
  | .double => .double
  | .varchar => .varchar none
  | .varbinary => .varbinary
  | .date => .date
  | .time => .time
  | .timestamp => .timestamp

@[simp] theorem kind_ofKind (k : TypeKind) : (ofKind k).kind = k := by cases k <;> rfl

def make (kind : TypeKind) (length : Option Int) : Except TypeFault LogicalType :=
  match length with
  | none => .ok (ofKind kind)
  | some n =>
    if kind = .varchar then
      if h : 0 < n.toNat ∧ n.toNat ≤ maxVarcharLength then
        .ok (.varchar (some ⟨n.toNat, h.1, h.2⟩))
      else .error (.lengthOutOfRange n)
    else .error (.lengthNotTaken kind)

def text (t : LogicalType) : String :=
  match t.length? with
  | some n => t.kind.name ++ "(" ++ toString n.val ++ ")"
  | none => t.kind.name

end LogicalType
end Pushdown
