import Pushdown.Number.Double
import Pushdown.Text.Blank
import Pushdown.Text.Digit
import Pushdown.Text.Find

/-!
Numbers written as text. Digits of any script count, and single underscores may stand between
digits.
-/
namespace Pushdown

open Text

/-- The digits of a run, in which a single underscore may stand between two digits. -/
def groupedDigits (value? : Char → Option Nat) : List Char → Option (List Nat)
  | [] => none
  | [c] => (value? c).map ([·])
  | c :: '_' :: rest => do return (← value? c) :: (← groupedDigits value? rest)
  | c :: rest => do return (← value? c) :: (← groupedDigits value? rest)

def ofDigits (ds : List Nat) : Nat := ds.foldl (fun n d => 10 * n + d) 0

/-- Splits off an optional sign; `true` stands for minus. -/
def splitSign : List Char → Bool × List Char
  | '-' :: rest => (true, rest)
  | '+' :: rest => (false, rest)
  | cs => (false, cs)

def signed (negative : Bool) (n : Nat) : Int := if negative then -(n : Int) else n

inductive NumeralFault
  | malformed
  | tooManyDigits (count : Nat)
  deriving DecidableEq, Repr

/-- The longest run of digits that is read as an integer. -/
def maxNumeralDigits : Nat := 4300

/-- Reads an integer between white space. A run of digits past the limit is refused before what
follows it is looked at. -/
def readInteger (cs : List Char) : Except NumeralFault Int :=
  let (negative, body) := splitSign (trimBy isSpace cs)
  let (run, rest) := body.span fun c => c == '_' || (digitValue? c).isSome
  match groupedDigits digitValue? run with
  | none => .error .malformed
  | some ds =>
    if maxNumeralDigits < ds.length then .error (.tooManyDigits ds.length)
    else if rest.isEmpty then .ok (signed negative (ofDigits ds))
    else .error .malformed

/-- The digits of a part that may be empty. -/
def partDigits (cs : List Char) : Option (List Nat) :=
  if cs.isEmpty then some [] else groupedDigits digitValue? cs

/-- Reads digits with an optional point and an optional exponent. -/
def readDecimal (negative : Bool) (cs : List Char) : Option Double := do
  let (mantissa, exponent?) := cutAt (fun c => c == 'e' || c == 'E') cs
  let (whole, fraction?) := cutAt (· == '.') mantissa
  let wholeDigits ← partDigits whole
  let fractionDigits ← partDigits (fraction?.getD [])
  let digits := wholeDigits ++ fractionDigits
  if digits.isEmpty then none
  let exponent ← match exponent? with
    | none => some 0
    | some cs =>
      let (down, body) := splitSign cs
      (groupedDigits digitValue? body).map fun ds => signed down (ofDigits ds)
  return Double.ofDecimal negative (ofDigits digits) (exponent - fractionDigits.length)

/-- Reads a number between white space: decimal, or by name an infinity or what is not a
number. -/
def readDouble (cs : List Char) : Option Double :=
  let (negative, body) := splitSign (trimBy isSpace cs)
  let name := body.map Char.toLower
  if name = "nan".toList then some .nan
  else if name = "inf".toList ∨ name = "infinity".toList then some (.infinity negative)
  else readDecimal negative body

end Pushdown
