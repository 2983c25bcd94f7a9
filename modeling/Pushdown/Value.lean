import Pushdown.Number.Shortest
import Pushdown.Text.Escape

/-!
Untyped operands of constraints. Truth values and both kinds of number share one order, by value;
text is ordered by code point, bytes by byte, and nothing else is ordered.
-/
namespace Pushdown

inductive Value
  | bool (b : Bool)
  | int (n : Int)
  | double (x : Double)
  | text (s : String)
  | bytes (bs : List UInt8)
  deriving DecidableEq

namespace Value

/-- The place of a value on the number line, if it has one. -/
def number? : Value → Option Number
  | .bool b => some (.ofInt (if b then 1 else 0))
  | .int n => some (.ofInt n)
  | .double x => some x.number
  | .text _ | .bytes _ => none

/-- Whether the first value is below the second, if the two are ordered at all. -/
def lt? (a b : Value) : Option Bool :=
  match a.number?, b.number? with
  | some x, some y => some (x.lt y)
  | _, _ =>
    match a, b with
    | .text s, .text t => some (decide (s < t))
    | .bytes s, .bytes t => some (decide (s < t))
    | _, _ => none

/-- Equality as constraints see it: by value, so that no value equals what is not a number. -/
def same (a b : Value) : Bool :=
  match a.number?, b.number? with
  | some x, some y => x.eq y
  | _, _ =>
    match a, b with
    | .text s, .text t => decide (s = t)
    | .bytes s, .bytes t => decide (s = t)
    | _, _ => false

/-- A value as diagnostics show it. -/
def display : Value → String
  | .bool b => if b then "True" else "False"
  | .int n => toString n
  | .double x => x.text
  | .text s => Text.display s
  | .bytes bs => Text.displayBytes bs

end Value
end Pushdown
