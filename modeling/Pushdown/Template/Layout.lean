import Pushdown.Text.Digit
import Pushdown.Text.Escape

/-!
Layouts: how the value of a slot is brought to a width, a precision and a form. A layout is written
as fill and alignment, sign, `z`, `#`, `0`, width, separator, precision and form; each may be left
out.
-/
namespace Pushdown.Template

open Text

inductive Kind
  | text
  | number
  deriving DecidableEq, Repr

def Kind.name : Kind → String
  | .text => "str"
  | .number => "int"

/-- The greatest number in a template, 2⁶³ - 1. -/
def maxNumber : Nat := 9223372036854775807

/-- Where the fill goes: behind, before, on both sides, or between the sign and the digits. -/
inductive Align
  | left
  | right
  | centre
  | inner
  deriving DecidableEq, Repr

def Align.ofChar? : Char → Option Align
  | '<' => some .left
  | '>' => some .right
  | '^' => some .centre
  | '=' => some .inner
  | _ => none

structure Layout where
  fill : Char
  align : Align
  sign : Option Char
  mergesZeros : Bool
  alternate : Bool
  width : Nat
  separator : Option Char
  precision : Option Nat
  form : Char
  deriving DecidableEq, Repr

/-- The parts of a layout that some values cannot take. -/
inductive Part
  | space
  | sign
  | mergedZeros
  | alternate
  | innerAlign
  | precision
  deriving DecidableEq, Repr

def Part.name : Part → String
  | .space => "Space"
  | .sign => "Sign"
  | .mergedZeros => "Negative zero coercion (z)"
  | .alternate => "Alternate form (#)"
  | .innerAlign => "'=' alignment"
  | .precision => "Precision"

/-- The values that cannot take a part. -/
inductive Place
  | text
  | integer
  | character
  deriving DecidableEq, Repr

def Place.name : Place → String
  | .text => "in string format specifier"
  | .integer => "in integer format specifier"
  | .character => "with integer format specifier 'c'"

inductive LayoutFault
  | longNumber
  | twoSeparators
  | noPrecision
  | malformed (layout : String) (kind : Kind)
  | separatorInForm (separator form : Char)
  | unknownForm (form : Char) (kind : Kind)
  | notAllowed (part : Part) (place : Place)
  | notCharacter
  | longPrecision
  | tooWide
  | notForKinds
  deriving DecidableEq, Repr

/-- A character of a template as messages show it: by its code unless it is visible ASCII. -/
def shownChar (last : Nat) (c : Char) : String :=
  if 32 < c.toNat ∧ c.toNat ≤ last then c.toString
  else String.ofList ('\\' :: 'x' :: hex 1 c.toNat)

def LayoutFault.message : LayoutFault → String
  | .longNumber => "Too many decimal digits in format string"
  | .twoSeparators => "Cannot specify both ',' and '_'."
  | .noPrecision => "Format specifier missing precision"
  | .malformed layout kind =>
    "Invalid format specifier '" ++ layout ++ "' for object of type '" ++ kind.name ++ "'"
  | .separatorInForm separator form =>
    "Cannot specify '" ++ separator.toString ++ "' with '" ++ shownChar 127 form ++ "'."
  | .unknownForm form kind =>
    "Unknown format code '" ++ shownChar 127 form ++ "' for object of type '" ++ kind.name ++ "'"
  | .notAllowed part place => part.name ++ " not allowed " ++ place.name
  | .notCharacter => "%c arg not in range(0x110000)"
  | .longPrecision => "precision too big"
  | .tooWide => ""
  | .notForKinds => "unsupported format string passed to type.__format__"

namespace Layout

/-- The fill and the alignment in front, each if it is given. -/
def readAlign : List Char → Option Char × Option Align × List Char
  | [] => (none, none, [])
  | c :: rest =>
    match rest.head?.bind Align.ofChar? with
    | some align => (some c, some align, rest.drop 1)
    | none =>
      match Align.ofChar? c with
      | some align => (none, some align, rest)
      | none => (none, none, c :: rest)

def readSign : List Char → Option Char × List Char
  | [] => (none, [])
  | c :: rest => if c = ' ' ∨ c = '+' ∨ c = '-' then (some c, rest) else (none, c :: rest)

/-- Whether a text begins with a mark, and the text after it. -/
def readMark (mark : Char) : List Char → Bool × List Char
  | [] => (false, [])
  | c :: rest => if c = mark then (true, rest) else (false, c :: rest)

def readSeparator : List Char → Except LayoutFault (Option Char × List Char)
  | ',' :: '_' :: _ | '_' :: ',' :: _ => .error .twoSeparators
  | ',' :: rest => .ok (some ',', rest)
  | '_' :: rest => .ok (some '_', rest)
  | cs => .ok (none, cs)

def readNumber (cs : List Char) : Except LayoutFault (Nat × List Char) :=
  match leadingNumber? maxNumber 0 cs with
  | some result => .ok result
  | none => .error .longNumber

def readPrecision : List Char → Except LayoutFault (Option Nat × List Char)
  | '.' :: cs => do
    let (n, rest) ← readNumber cs
    if rest.length = cs.length then .error .noPrecision else .ok (some n, rest)
  | cs => .ok (none, cs)

/-- How many digits stand between two separators in a number of the given form, if the form can
have that separator. -/
def groupSize? (separator form : Char) : Option Nat :=
  if "deEfFgG%".toList.contains form then some 3
  else if separator = '_' ∧ "boxX".toList.contains form then some 4
  else none

/-- Reads a layout for values of a kind. Text stands to the left and numbers to the right unless
the layout says otherwise, and a zero in front of the width fills. -/
def read (kind : Kind) (cs : List Char) : Except LayoutFault Layout := do
  let (fill?, align?, rest) := readAlign cs
  let (sign, rest) := readSign rest
  let (mergesZeros, rest) := readMark 'z' rest
  let (alternate, rest) := readMark '#' rest
  let (zero, rest) := if fill?.isSome then (false, rest) else readMark '0' rest
  let (width, rest) ← readNumber rest
  let (separator, rest) ← readSeparator rest
  let (precision, rest) ← readPrecision rest
  let form ← match rest with
    | [] => .ok (if kind = .number then 'd' else 's')
    | [c] => .ok c
    | _ => .error (.malformed (String.ofList cs) kind)
  if let some s := separator then
    if (groupSize? s form).isNone then .error (.separatorInForm s form)
  let align := if kind = .number then (if zero then .inner else .right) else .left
  return {
    fill := fill?.getD (if zero then '0' else ' ')
    align := align?.getD align
    sign, mergesZeros, alternate, width, separator, precision, form }

/-- Fills up to the width; the fill goes before, behind, around or between two pieces. -/
def pad (l : Layout) (front body : List Char) : List Char :=
  let missing := l.width - (front.length + body.length)
  let fill (n : Nat) := List.replicate n l.fill
  match l.align with
  | .left => front ++ body ++ fill missing
  | .right => fill missing ++ front ++ body
  | .centre => fill (missing / 2) ++ front ++ body ++ fill (missing - missing / 2)
  | .inner => front ++ fill missing ++ body

def refuse (cond : Bool) (part : Part) (place : Place) : Except LayoutFault Unit :=
  if cond then .error (.notAllowed part place) else .ok ()

/-- The greatest width that there is room for, 2³¹ - 1. -/
def maxWidth : Nat := 2147483647

def checkWidth (l : Layout) : Except LayoutFault Unit :=
  if maxWidth < l.width then .error .tooWide else .ok ()

/-- Lays out a text, cut to the precision. -/
def text (l : Layout) (cs : List Char) : Except LayoutFault (List Char) := do
  if l.form ≠ 's' then .error (.unknownForm l.form .text)
  refuse (l.sign = some ' ') .space .text
  refuse l.sign.isSome .sign .text
  refuse l.mergesZeros .mergedZeros .text
  refuse l.alternate .alternate .text
  refuse (l.align = .inner) .innerAlign .text
  l.checkWidth
  return l.pad [] (match l.precision with
    | some n => cs.take n
    | none => cs)

end Layout
end Pushdown.Template
