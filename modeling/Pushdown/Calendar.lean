/-!
Days and seconds counted from 1 January 1970 as calendar text, for the years 1 to 9999 of the
Gregorian calendar carried back before its introduction.
-/
namespace Pushdown

structure Date where
  year : Nat
  month : Nat
  day : Nat
  deriving DecidableEq, Repr

def isLeapYear (year : Nat) : Bool :=
  year % 4 == 0 && (year % 100 != 0 || year % 400 == 0)

def monthLengths (year : Nat) : List Nat :=
  [31, if isLeapYear year then 29 else 28, 31, 30, 31, 30, 31, 31, 30, 31, 30, 31]

/-- Month and day of the `n`-th day, from 0, of the months that start with number `month`. -/
def splitMonths (month n : Nat) : List Nat → Nat × Nat
  | [] => (month, n + 1)
  | length :: rest =>
    if n < length then (month, n + 1) else splitMonths (month + 1) (n - length) rest

/-- The date of the `n`-th day, from 0, since 1 January of year 1. Of the four centuries of an
era, and of the four years of a leap cycle, the last is the longest. -/
def Date.ofOrdinal (n : Nat) : Date :=
  let era := n / 146097
  let inEra := n % 146097
  let century := min (inEra / 36524) 3
  let inCentury := inEra - century * 36524
  let cycle := inCentury / 1461
  let inCycle := inCentury % 1461
  let yearOfCycle := min (inCycle / 365) 3
  let year := 400 * era + 100 * century + 4 * cycle + yearOfCycle + 1
  let (month, day) := splitMonths 1 (inCycle - yearOfCycle * 365) (monthLengths year)
  ⟨year, month, day⟩

/-- The ordinal of 1 January 1970. -/
def epochOrdinal : Int := 719162

/-- The ordinal after the last day of year 9999. -/
def ordinalLimit : Int := 3652059

/-- The date of a day counted from 1 January 1970, if its year is from 1 to 9999. -/
def Date.ofDay? (day : Int) : Option Date :=
  let n := day + epochOrdinal
  if 0 ≤ n ∧ n < ordinalLimit then some (.ofOrdinal n.toNat) else none

/-- `n` in decimal, padded with zeros to `width`. -/
def padded (width n : Nat) : List Char :=
  let digits := Nat.toDigits 10 n
  List.replicate (width - digits.length) '0' ++ digits

def Date.chars (d : Date) : List Char :=
  padded 4 d.year ++ '-' :: padded 2 d.month ++ '-' :: padded 2 d.day

/-- Year, month and day with dashes. -/
def Date.text (d : Date) : String := String.ofList d.chars

/-- A date and the second of the day. -/
structure Moment where
  date : Date
  second : Nat
  deriving DecidableEq, Repr

/-- The whole second that a millisecond falls in, if its year is from 1 to 9999. -/
def Moment.ofMillis? (millis : Int) : Option Moment :=
  let second := millis.fdiv 1000
  (Date.ofDay? (second.fdiv 86400)).map fun date => ⟨date, (second.fmod 86400).toNat⟩

def Moment.chars (m : Moment) : List Char :=
  m.date.chars ++ ' ' :: padded 2 (m.second / 3600) ++ ':' :: padded 2 (m.second / 60 % 60)
    ++ ':' :: padded 2 (m.second % 60)

/-- Date and time of day, a blank between them. -/
def Moment.text (m : Moment) : String := String.ofList m.chars

end Pushdown
