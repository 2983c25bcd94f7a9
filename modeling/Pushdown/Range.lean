import Pushdown.Value

/-!
Contiguous ranges of values. A range is built only from bounds that can be compared and leave
room for a value between them.
-/
namespace Pushdown

/-- Bounds as stated; a side without a bound is unlimited. -/
structure Bounds where
  low : Option Value
  lowInclusive : Bool
  high : Option Value
  highInclusive : Bool
  deriving DecidableEq

inductive RangeFault
  | openLowInclusive
  | openHighInclusive
  | notComparable (low high : Value)
  | inverted (low high : Value)
  | pointExcluded (value : Value)
  deriving DecidableEq

def RangeFault.message : RangeFault → String
  | .openLowInclusive => "Unbounded low side cannot be inclusive"
  | .openHighInclusive => "Unbounded high side cannot be inclusive"
  | .notComparable low high =>
    "Range bounds are not comparable: " ++ low.display ++ ", " ++ high.display
  | .inverted low high =>
    "Range low bound " ++ low.display ++ " is above high bound " ++ high.display
  | .pointExcluded value =>
    "Range on a single value " ++ value.display ++ " must be inclusive on both sides"

/-- What is wrong with two bounds that are both present. -/
def boundsFault? (low high : Value) (bothInclusive : Bool) : Option RangeFault :=
  match high.lt? low with
  | none => some (.notComparable low high)
  | some true => some (.inverted low high)
  | some false => if low.same high && !bothInclusive then some (.pointExcluded low) else none

namespace Bounds

def fault? (b : Bounds) : Option RangeFault :=
  if b.low.isNone && b.lowInclusive then some .openLowInclusive
  else if b.high.isNone && b.highInclusive then some .openHighInclusive
  else
    match b.low, b.high with
    | some low, some high => boundsFault? low high (b.lowInclusive && b.highInclusive)
    | _, _ => none

/-- The value that the bounds pin down, if they do. -/
def single? (b : Bounds) : Option Value :=
  match b.low, b.high with
  | some low, some high =>
    if b.lowInclusive && b.highInclusive && low.same high then some low else none
  | _, _ => none

def equal (value : Option Value) : Bounds := ⟨value, true, value, true⟩

def greaterThan (value : Option Value) : Bounds := ⟨value, false, none, false⟩

def greaterThanOrEqual (value : Option Value) : Bounds := ⟨value, true, none, false⟩

def lessThan (value : Option Value) : Bounds := ⟨none, false, value, false⟩

def lessThanOrEqual (value : Option Value) : Bounds := ⟨none, false, value, true⟩

end Bounds

structure Range extends Bounds where
  sound : toBounds.fault? = none
  deriving DecidableEq

def Range.make (b : Bounds) : Except RangeFault Range :=
  match h : b.fault? with
  | none => .ok ⟨b, h⟩
  | some fault => .error fault

end Pushdown
