import Pushdown.Number.Lenient

/-!
Fields of records that come from outside. Every fault of a record is reported, each with the path
to the value at fault, in the order in which the fields are declared.
-/
namespace Pushdown

open Text

/-- A value before it is known to be of the kind a field wants. -/
inductive Raw
  | null
  | bool (b : Bool)
  | int (n : Int)
  | double (x : Double)
  | text (s : String)
  | list (items : List Raw)
  | record (fields : List (String × Raw))
  deriving Inhabited

inductive PathStep
  | field (name : String)
  | index (i : Nat)
  deriving DecidableEq, Repr

inductive Problem
  | missing
  | notText
  | notInteger
  | malformedInteger
  | oversizedInteger
  | fractional
  | notFinite
  | notPositive
  | notList
  | notMapping
  | notBoolean
  | malformedBoolean
  | notOneOf (names : List String)
  | rejected (reason : String)
  deriving DecidableEq, Repr

/-- Alternatives with commas between them and a word before the last. -/
def alternatives : List String → String
  | [] => ""
  | [a] => a
  | [a, b] => a ++ " or " ++ b
  | a :: rest => a ++ ", " ++ alternatives rest

def Problem.message : Problem → String
  | .missing => "Field required"
  | .notText => "Input should be a valid string"
  | .notInteger => "Input should be a valid integer"
  | .malformedInteger =>
    "Input should be a valid integer, unable to parse string as an integer"
  | .oversizedInteger => "Unable to parse input string as an integer, exceeded maximum size"
  | .fractional => "Input should be a valid integer, got a number with a fractional part"
  | .notFinite => "Input should be a finite number"
  | .notPositive => "Input should be greater than 0"
  | .notList => "Input should be a valid list"
  | .notMapping => "Input should be a valid dictionary"
  | .notBoolean => "Input should be a valid boolean"
  | .malformedBoolean => "Input should be a valid boolean, unable to interpret input"
  | .notOneOf names => "Input should be " ++ alternatives (names.map fun n => "'" ++ n ++ "'")
  | .rejected reason => "Value error, " ++ reason

structure Fault where
  path : List PathStep
  problem : Problem
  deriving DecidableEq, Repr

abbrev Checked (α : Type) := Except (List Fault) α

namespace Checked

variable {α β : Type}

/-- A record or function before its fields are known. -/
def start (a : α) : Checked α := .ok a

def fail (p : Problem) : Checked α := .error [⟨[], p⟩]

/-- A record refused as a whole. -/
def reject (reason : String) : Checked α := fail (.rejected reason)

/-- Puts a step before the path of every fault. -/
def under (step : PathStep) : Checked α → Checked α
  | .ok a => .ok a
  | .error faults => .error (faults.map fun f => { f with path := step :: f.path })

/-- Applies a function to an argument; the faults of both are kept. -/
def app : Checked (α → β) → Checked α → Checked β
  | .ok f, .ok a => .ok (f a)
  | .error e, .ok _ => .error e
  | .ok _, .error e => .error e
  | .error e, .error e' => .error (e ++ e')

def all : List (Checked α) → Checked (List α)
  | [] => .ok []
  | c :: rest => ((start List.cons).app c).app (all rest)

end Checked

namespace Raw

def kindName : Raw → String
  | .null => "NoneType"
  | .bool _ => "bool"
  | .int _ => "int"
  | .double _ => "float"
  | .text _ => "str"
  | .list _ => "list"
  | .record _ => "dict"

def given? : Raw → Option Raw
  | .null => none
  | raw => some raw

/-- Whether a value counts as nothing: zero, false or empty. -/
def isZero : Raw → Bool
  | .null => true
  | .bool b => !b
  | .int n => n == 0
  | .double x => x.number.eq (.units 0)
  | .text s => s.isEmpty
  | .list items => items.isEmpty
  | .record fields => fields.isEmpty

def asText : Raw → Checked String
  | .text s => .ok s
  | _ => .fail .notText

/-- Null, or what the reader makes of another value. -/
def orNull {α : Type} (read : Raw → Checked α) : Raw → Checked (Option α)
  | .null => .ok none
  | raw => (read raw).map some

/-- The whole numbers that are taken from doubles lie between -2⁶³ and 2⁶³. -/
def maxWhole : Nat := Nat.pow 2 63

/-- The whole number that a double stands for. -/
def wholeOf : Double → Except Problem Int
  | .finite x =>
    if x.units % unitsPerOne ≠ 0 then .error .fractional
    else if (x.units / unitsPerOne).natAbs < maxWhole then .ok (x.units / unitsPerOne)
    else .error .oversizedInteger
  | _ => .error .notFinite

def asInteger : Raw → Checked Int
  | .int n => .ok n
  | .bool b => .ok (if b then 1 else 0)
  | .double x =>
    match wholeOf x with
    | .ok n => .ok n
    | .error problem => .fail problem
  | .text s =>
    match readLenient s.toList with
    | .ok n => .ok n
    | .error .malformed => .fail .malformedInteger
    | .error (.tooManyDigits _) => .fail .oversizedInteger
  | _ => .fail .notInteger

def trueWords : List String := ["1", "t", "y", "on", "yes", "true"]

def falseWords : List String := ["0", "f", "n", "no", "off", "false"]

def truthOfInteger (n : Int) : Checked Bool :=
  if n = 0 then .ok false else if n = 1 then .ok true else .fail .malformedBoolean

def asBool : Raw → Checked Bool
  | .bool b => .ok b
  | .int n => truthOfInteger n
  | .double x =>
    match wholeOf x with
    | .ok n => truthOfInteger n
    | .error _ => .fail .notBoolean
  | .text s =>
    let word := s.map Char.toLower
    if trueWords.contains word then .ok true
    else if falseWords.contains word then .ok false
    else .fail .malformedBoolean
  | _ => .fail .notBoolean

/-- One of a list of named alternatives. -/
def asChoice {α : Type} (names : List String) (ofName? : String → Option α) : Raw → Checked α
  | .text s =>
    match ofName? s with
    | some a => .ok a
    | none => .fail (.notOneOf names)
  | _ => .fail (.notOneOf names)

def asList {α : Type} (read : Raw → Checked α) : Raw → Checked (List α)
  | .list items => .all (items.mapIdx fun i item => .under (.index i) (read item))
  | _ => .fail .notList

def asTextMap : Raw → Checked (List (String × String))
  | .record fields => .all (fields.map fun (name, raw) =>
      (Checked.under (.field name) raw.asText).map fun s => (name, s))
  | _ => .fail .notMapping

end Raw

/-- The fields of a record by name. -/
abbrev Fields := List (String × Raw)

namespace Fields

variable {α : Type} (fields : Fields) (name : String) (read : Raw → Checked α)

def required : Checked α :=
  .under (.field name) (match fields.lookup name with
    | some raw => read raw
    | none => .fail .missing)

/-- A field that may be left out. -/
def getOr (absent : α) : Checked α :=
  match fields.lookup name with
  | some raw => .under (.field name) (read raw)
  | none => .ok absent

end Fields
end Pushdown
