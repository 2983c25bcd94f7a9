import Pushdown.Template.Number
import Pushdown.Template.Slot

/-!
Templates filled with named values. A template is filled from the left, so an unknown name is
found before a fault that comes after it.
-/
namespace Pushdown.Template

open Text

/-- A text, a number, or the kind of one of them. -/
inductive Value
  | text (s : String)
  | number (n : Nat)
  | kind (k : Kind)
  deriving DecidableEq, Repr

inductive Fault
  | slot (fault : SlotFault)
  | position (index : Nat)
  | unknownName (name : String)
  | longNumber
  | emptyAccess
  | afterBracket
  | unclosedBracket
  | noPart (owner : Value) (name : String)
  | nameAsIndex
  | indexOutOfRange
  | notIndexed (owner : Value)
  | unknownConversion (c : Char)
  | tooDeep
  | layout (fault : LayoutFault)
  deriving DecidableEq, Repr

namespace Value

/-- The text of a value in a slot without a layout. -/
def plain : Value → String
  | .text s => s
  | .number n => toString n
  | .kind k => "<class '" ++ k.name ++ "'>"

/-- The text of a value as diagnostics show it. -/
def shown : Value → String
  | .text s => display s
  | v => v.plain

/-- What a value is called where something of it is asked for. -/
def ownerName : Value → String
  | .text _ => "'" ++ Kind.text.name ++ "' object"
  | .number _ => "'" ++ Kind.number.name ++ "' object"
  | .kind k => "type object '" ++ k.name ++ "'"

end Value

def Fault.message : Fault → String
  | .slot fault => fault.message
  | .position index =>
    "Replacement index " ++ toString index ++ " out of range for positional args tuple"
  | .unknownName name => display name
  | .longNumber => LayoutFault.longNumber.message
  | .emptyAccess => "Empty attribute in format string"
  | .afterBracket => "Only '.' or '[' may follow ']' in format field specifier"
  | .unclosedBracket => "Missing ']' in format string"
  | .noPart owner name => owner.ownerName ++ " has no attribute '" ++ name ++ "'"
  | .nameAsIndex => "string indices must be integers, not 'str'"
  | .indexOutOfRange => "string index out of range"
  | .notIndexed (.kind k) => "type '" ++ k.name ++ "' is not subscriptable"
  | .notIndexed owner => owner.ownerName ++ " is not subscriptable"
  | .unknownConversion c => "Unknown conversion specifier " ++ shownChar 126 c
  | .tooDeep => "Max string recursion exceeded"
  | .layout fault => fault.message

/-- What the name of a slot goes on with: a part of the value, or an item of it in brackets. -/
inductive Access
  | part (name : List Char)
  | item (key : List Char)
  | broken (fault : Fault)
  deriving DecidableEq, Repr

/-- Where a reader of names is. What it has seen is kept last character first. -/
inductive NameReading
  | between
  | part (seen : List Char)
  | item (seen : List Char)

def accesses : NameReading → List Char → List Access
  | .between, [] => []
  | .between, '.' :: rest => accesses (.part []) rest
  | .between, '[' :: rest => accesses (.item []) rest
  | .between, _ :: _ => [.broken .afterBracket]
  | .part seen, [] => [.part seen.reverse]
  | .part seen, '.' :: rest => .part seen.reverse :: accesses (.part []) rest
  | .part seen, '[' :: rest => .part seen.reverse :: accesses (.item []) rest
  | .part seen, c :: rest => accesses (.part (c :: seen)) rest
  | .item _, [] => [.broken .unclosedBracket]
  | .item seen, ']' :: rest => .item seen.reverse :: accesses .between rest
  | .item seen, c :: rest => accesses (.item (c :: seen)) rest

/-- What a name or a key is read as. -/
inductive Key
  | index (n : Nat)
  | longIndex
  | name
  deriving DecidableEq, Repr

/-- Digits, or nothing at all, are an index. -/
def readKey (cs : List Char) : Key :=
  match leadingNumber? maxNumber 0 cs with
  | some (n, []) => .index n
  | some _ => .name
  | none => .longIndex

namespace Value

/-- The parts of a value that templates can name. -/
def part? (name : String) : Value → Option Value
  | .text _ => if name = "__class__" then some (.kind .text) else none
  | .number n =>
    if name = "real" ∨ name = "numerator" then some (.number n)
    else if name = "imag" then some (.number 0)
    else if name = "denominator" then some (.number 1)
    else if name = "__class__" then some (.kind .number)
    else none
  | .kind k => if name = "__name__" then some (.text k.name) else none

/-- The item of a value for a key that was read as it should be. -/
def item (v : Value) (key : Key) : Except Fault Value :=
  match v, key with
  | _, .longIndex => .error .longNumber
  | .text s, .index i =>
    match s.toList[i]? with
    | some c => .ok (.text c.toString)
    | none => .error .indexOutOfRange
  | .text _, .name => .error .nameAsIndex
  | v, _ => .error (.notIndexed v)

def access (v : Value) : Access → Except Fault Value
  | .broken fault => .error fault
  | .part [] | .item [] => .error .emptyAccess
  | .part name =>
    match v.part? (String.ofList name) with
    | some part => .ok part
    | none => .error (.noPart v (String.ofList name))
  | .item key => v.item (readKey key)

/-- A conversion turns a value into its text, plain or as diagnostics show it, or shown in ASCII
alone. -/
def convert (v : Value) : Option Char → Except Fault Value
  | none => .ok v
  | some 's' => .ok (.text v.plain)
  | some 'r' => .ok (.text v.shown)
  | some 'a' => .ok (.text (asciiOnly v.shown))
  | some c => .error (.unknownConversion c)

def layOut (v : Value) (layout : List Char) : Except Fault String :=
  if layout.isEmpty then .ok v.plain
  else
    let laidOut : Except LayoutFault (List Char) := match v with
      | .text s => do (← Layout.read .text layout).text s.toList
      | .number n => do (← Layout.read .number layout).number n
      | .kind _ => .error .notForKinds
    (laidOut.map String.ofList).mapError .layout

end Value

abbrev Values := List (String × Value)

/-- The value that the name of a slot stands for. -/
def lookup (values : Values) (name : List Char) : Except Fault Value := do
  let (first, rest) := name.span fun c => c != '.' && c != '['
  let value ← match readKey first with
    | .index n => .error (.position n)
    | .longIndex => .error .longNumber
    | .name =>
      match values.lookup (String.ofList first) with
      | some value => .ok value
      | none => .error (.unknownName (String.ofList first))
  (accesses .between rest).foldlM Value.access value

/-- Fills the slots among the pieces. A layout that has slots itself is expanded first. -/
def fillPieces (values : Values) (expand : List Char → Except Fault String) :
    List Piece → Except Fault String
  | [] => .ok ""
  | .char c :: rest => do return c.toString ++ (← fillPieces values expand rest)
  | .slot s :: rest => do
    let value ← (← lookup values s.name).convert s.conversion
    let layout ← if s.layout.contains '{' then (·.toList) <$> expand s.layout else .ok s.layout
    let text ← value.layOut layout
    return text ++ (← fillPieces values expand rest)
  | .broken fault :: _ => .error (.slot fault)

/-- Fills a template in which layouts are expanded less than `depth` deep. -/
def fillTo (values : Values) : Nat → List Char → Except Fault String
  | 0, _ => .error .tooDeep
  | depth + 1, cs => fillPieces values (fillTo values depth) (pieces .plain cs)

/-- A layout may have slots, but their layouts may not. -/
def maxDepth : Nat := 2

/-- Fills the slots of a template by name. -/
def fill (template : String) (values : Values) : Except Fault String :=
  fillTo values maxDepth template.toList

end Pushdown.Template
