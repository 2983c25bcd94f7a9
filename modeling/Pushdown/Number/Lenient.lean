import Pushdown.Number.Numeral

/-!
Integers as records write them. The plain form has ASCII digits without needless zeros and no plus
sign; text of another form is cleaned once and then has to be plain.
-/
namespace Pushdown

open Text

/-- Reads the plain form. The minus sign counts towards the longest run, and a longer one is
refused before what follows it is looked at. -/
def readPlain (cs : List Char) : Except NumeralFault Int :=
  let (negative, body) := match cs with
    | '-' :: rest => (true, rest)
    | _ => (false, cs)
  let (run, rest) := body.span isAsciiDigit
  match run with
  | [] => .error .malformed
  | '0' :: more => if more.isEmpty && rest.isEmpty then .ok 0 else .error .malformed
  | _ =>
    let count := run.length + if negative then 1 else 0
    if maxNumeralDigits < count then .error (.tooManyDigits count)
    else if rest.isEmpty then
      .ok (signed negative (ofDigits (run.filterMap asciiDigitValue?)))
    else .error .malformed

namespace Lenient

/-- What may follow leading zeros as the beginning of a number. -/
def startsNumber (c : Char) : Bool := c == '-' || (isAsciiDigit c && c != '0')

/-- Drops the plus sign, unless a minus sign follows it. -/
def dropPlus : List Char → Option (List Char)
  | '+' :: '-' :: _ => none
  | '+' :: rest => some rest
  | cs => some cs

/-- Drops zeros and underscores after a first zero; `last` is the character before. Where the
number ends there, or goes on with a point, `last` is kept. -/
def dropZerosAfter (last : Char) : List Char → Option (List Char)
  | [] => some [last]
  | c :: rest =>
    if c = '0' ∨ c = '_' then dropZerosAfter c rest
    else if startsNumber c then some (c :: rest)
    else if c = '.' then some (last :: c :: rest)
    else none

def dropZeros : List Char → Option (List Char)
  | [] => none
  | c :: rest =>
    if c = '0' then dropZerosAfter c rest
    else if startsNumber c then some (c :: rest)
    else none

/-- Drops a point that only zeros follow, one at least. -/
def dropFraction (cs : List Char) : List Char :=
  match cutAt (· == '.') cs with
  | (whole, some zeros) => if !zeros.isEmpty && zeros.all (· == '0') then whole else cs
  | _ => cs

/-- Drops the underscores if each stands alone within the text. -/
def dropUnderscores (cs : List Char) : List Char :=
  if cs.head? = some '_' ∨ cs.getLast? = some '_' ∨ occurs ['_', '_'] cs then cs
  else cs.filter (· != '_')

def clean (cs : List Char) : Option (List Char) := do
  let cs ← dropPlus cs
  let cs ← dropZeros cs
  return dropUnderscores (dropFraction cs)

end Lenient

/-- Reads an integer between white space, plain or after cleaning. -/
def readLenient (text : List Char) : Except NumeralFault Int :=
  let cs := trimBy isSpace text
  match readPlain cs with
  | .error .malformed =>
    match Lenient.clean cs with
    | some cleaned => readPlain cleaned
    | none => .error .malformed
  | result => result

end Pushdown
