/-!
Strided spans of code points: the form in which the character classes and case pairs are kept.
-/
namespace Pushdown.Text

/-- Every `stride`-th code point from `first` up to `last`. -/
structure Span where
  first : Nat
  last : Nat
  stride : Nat
  deriving DecidableEq, Repr

def Span.has (s : Span) (n : Nat) : Bool :=
  decide (s.first ≤ n) && decide (n ≤ s.last) && (n - s.first) % s.stride == 0

/-- A span whose members move together, the first of them to `image`. -/
structure Shift where
  span : Span
  image : Nat
  deriving DecidableEq, Repr

def Shift.apply (s : Shift) (n : Nat) : Nat := s.image + (n - s.span.first)

def inSpans (spans : List Span) (c : Char) : Bool := spans.any (·.has c.toNat)

/-- The image of a character under the first span that has it. -/
def shifted? (shifts : List Shift) (c : Char) : Option Char :=
  (shifts.find? (·.span.has c.toNat)).map fun s => Char.ofNat (s.apply c.toNat)

end Pushdown.Text
