import Pushdown.Number.Double
import Pushdown.Template.Layout

/-!
Natural numbers in a layout: as digits of a base, as the character of that code, or as decimal text
with a fraction or an exponent. Only digits that the precision leaves out are rounded away.
-/
namespace Pushdown.Template.Layout

/-- Puts a separator wherever a multiple of `size` digits follows. -/
def separate (size : Nat) (separator : Char) : List Char → List Char
  | [] => []
  | c :: rest =>
    if rest.isEmpty || rest.length % size != 0 then c :: separate size separator rest
    else c :: separator :: separate size separator rest

/-- Digits with zeros before them to take up the room, and with the separators of the layout. A
separator never comes first, so one more place than there is room for may be taken. -/
def fillDigits (l : Layout) (room : Nat) (digits : List Char) : List Char :=
  match l.separator.bind fun s => (groupSize? s l.form).map (s, ·) with
  | none => List.replicate (room - digits.length) '0' ++ digits
  | some (separator, size) =>
    let needed := room - (room - 1) / (size + 1)
    separate size separator (List.replicate (needed - digits.length) '0' ++ digits)

/-- Lays out a number given as what stands before its digits, the digits and what follows them. -/
def assemble (l : Layout) (front digits tail : List Char) : List Char :=
  if digits.isEmpty then l.pad front tail
  else
    let zeros := l.fill == '0' && l.align == .inner
    let room := if zeros then l.width - (front.length + tail.length) else 0
    l.pad front (l.fillDigits room digits ++ tail)

def base? : Char → Option Nat
  | 'd' | 'n' => some 10
  | 'b' => some 2
  | 'o' => some 8
  | 'x' | 'X' => some 16
  | _ => none

/-- What stands before a number that is not negative. -/
def signText (l : Layout) : List Char :=
  match l.sign with
  | some '+' => ['+']
  | some ' ' => [' ']
  | _ => []

def integer (l : Layout) (base n : Nat) : Except LayoutFault (List Char) := do
  refuse l.precision.isSome .precision .integer
  refuse l.mergesZeros .mergedZeros .integer
  l.checkWidth
  let digits := Nat.toDigits base n
  let mark := if l.alternate && base != 10 then ['0', l.form] else []
  let digits := if l.form = 'X' then digits.map Char.toUpper else digits
  return l.assemble (l.signText ++ mark) digits []

def character (l : Layout) (n : Nat) : Except LayoutFault (List Char) := do
  refuse l.precision.isSome .precision .integer
  refuse l.mergesZeros .mergedZeros .integer
  refuse l.sign.isSome .sign .character
  refuse l.alternate .alternate .character
  if 0x10FFFF < n then .error .notCharacter
  l.checkWidth
  return l.assemble [] [] [Char.ofNat n]

/-- A fraction after its point, which stands alone only in the alternate form. -/
def fractionText (l : Layout) (digits : List Char) : List Char :=
  if digits.isEmpty && !l.alternate then [] else '.' :: digits

def exponentText (upper : Bool) (exponent : Nat) : List Char :=
  let digits := Nat.toDigits 10 exponent
  (if upper then 'E' else 'e') :: '+' :: List.replicate (2 - digits.length) '0' ++ digits

/-- The first `count` digits of a number, rounded to nearest, a tie to the even one, and the
exponent of the first of them. -/
def significant (count n : Nat) : List Char × Nat :=
  let digits := Nat.toDigits 10 n
  if digits.length ≤ count then
    (digits ++ List.replicate (count - digits.length) '0', digits.length - 1)
  else
    let rounded := Nat.toDigits 10 (roundHalfEven n (Nat.pow 10 (digits.length - count)))
    (rounded.take count, digits.length - 1 + (rounded.length - count))

def dropZeros (digits : List Char) : List Char := (digits.reverse.dropWhile (· == '0')).reverse

/-- The whole part and the rest of a number with `precision` places. -/
def fixed (l : Layout) (precision n : Nat) : List Char × List Char :=
  (Nat.toDigits 10 n, l.fractionText (List.replicate precision '0'))

/-- One digit, `precision` places and an exponent. -/
def scientific (l : Layout) (precision n : Nat) : List Char × List Char :=
  let (digits, exponent) := significant (precision + 1) n
  (digits.take 1, l.fractionText (digits.drop 1) ++ exponentText (l.form == 'E') exponent)

/-- At most `precision` digits, with an exponent only when the whole part is longer. Zeros at the
end of the fraction are kept in the alternate form only. -/
def general (l : Layout) (precision n : Nat) : List Char × List Char :=
  let count := max precision 1
  let whole := Nat.toDigits 10 n
  let kept (digits : List Char) := if l.alternate then digits else dropZeros digits
  if whole.length ≤ count then
    (whole, l.fractionText (kept (List.replicate (count - whole.length) '0')))
  else
    let (digits, exponent) := significant count n
    (digits.take 1, l.fractionText (kept (digits.drop 1)) ++ exponentText (l.form == 'G') exponent)

/-- A hundred times the number, with a percent sign. -/
def percent (l : Layout) (precision n : Nat) : List Char × List Char :=
  let (whole, fraction) := l.fixed precision (100 * n)
  (whole, fraction ++ ['%'])

def decimalForm? : Char → Option (Layout → Nat → Nat → List Char × List Char)
  | 'f' | 'F' => some fixed
  | 'e' | 'E' => some scientific
  | 'g' | 'G' => some general
  | '%' => some percent
  | _ => none

/-- The greatest precision, 2³¹ - 1. -/
def maxPrecision : Nat := 2147483647

def defaultPrecision : Nat := 6

def decimal (l : Layout) (form : Layout → Nat → Nat → List Char × List Char) (n : Nat) :
    Except LayoutFault (List Char) := do
  let precision := l.precision.getD defaultPrecision
  if maxPrecision < precision then .error .longPrecision
  l.checkWidth
  let (whole, tail) := form l precision n
  return l.assemble l.signText whole tail

/-- Lays out a natural number. -/
def number (l : Layout) (n : Nat) : Except LayoutFault (List Char) :=
  match base? l.form with
  | some base => l.integer base n
  | none =>
    match decimalForm? l.form with
    | some form => l.decimal form n
    | none => if l.form = 'c' then l.character n else .error (.unknownForm l.form .number)

end Pushdown.Template.Layout
