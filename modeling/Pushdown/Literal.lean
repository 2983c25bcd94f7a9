import Pushdown.Calendar
import Pushdown.Dialect
import Pushdown.LogicalType
import Pushdown.Number.Numeral
import Pushdown.Template
import Pushdown.Text.Case
import Pushdown.Value

/-!
Values as SQL literals of a column type. Numbers and truth values may be given as text; dates are
days and timestamps milliseconds from the start of 1970, cut to whole seconds.
-/
namespace Pushdown

/-- Why a value does not fit a column type. -/
inductive Mismatch
  | notText
  | notUtf8
  | notInteger
  | malformedInteger
  | notNumber
  | malformedNumber
  | notFinite
  | notBoolean
  | dateOutOfRange
  | timestampOutOfRange
  | notPushable (type : LogicalType)
  deriving DecidableEq, Repr

def Mismatch.message : Mismatch → String
  | .notText => "expected text"
  | .notUtf8 => "text value is not valid UTF-8"
  | .notInteger => "expected an integer"
  | .malformedInteger => "malformed integer"
  | .notNumber => "expected a number"
  | .malformedNumber => "malformed number"
  | .notFinite => "number is not finite"
  | .notBoolean => "expected a boolean"
  | .dateOutOfRange => "date out of range"
  | .timestampOutOfRange => "timestamp out of range"
  | .notPushable type => "type " ++ type.text ++ " cannot be pushed down"

/-- A value that breaks the contract of its column. The value is not shown when it is null, when
its bytes are no text, or when the type takes no literals at all. -/
structure ContractBreach where
  column : String
  mismatch : Mismatch
  value : Option Value
  deriving DecidableEq

/-- What a breach says. An integer is shown in full, also beyond `maxNumeralDigits`. -/
def ContractBreach.message (b : ContractBreach) : String :=
  "Invalid constraint value for column " ++ b.column ++ ": " ++ b.mismatch.message ++
    match b.value with
    | some value => " (got " ++ value.display ++ ")"
    | none => ""

inductive LiteralFault
  | breach (b : ContractBreach)
  | integerTooLarge
  | template (fault : Template.Fault)
  deriving DecidableEq

/-- The kinds whose values have literals. -/
def TypeKind.isPushable : TypeKind → Bool
  | .bigint | .double | .boolean | .varchar | .date | .timestamp => true
  | .varbinary | .time => false

def LogicalType.isPushable (t : LogicalType) : Bool := t.kind.isPushable

namespace Literal

/-- The text that bytes encode. -/
def decodeUtf8? (bytes : List UInt8) : Option String := String.fromUTF8? ⟨bytes.toArray⟩

def textOf (value : Option Value) : Except Mismatch String :=
  match value with
  | some (.text s) => .ok s
  | some (.bytes bs) =>
    match decodeUtf8? bs with
    | some s => .ok s
    | none => .error .notUtf8
  | _ => .error .notText

def integerOf (value : Option Value) : Except Mismatch Int :=
  match value with
  | some (.int n) => .ok n
  | some (.text s) =>
    match readInteger (Text.trimChars s.toList) with
    | .ok n => .ok n
    | .error _ => .error .malformedInteger
  | _ => .error .notInteger

def boolOf (value : Option Value) : Except Mismatch Bool :=
  match value with
  | some (.bool b) => .ok b
  | some (.text s) =>
    let word := Text.lower (Text.trim s)
    if word = "true" then .ok true
    else if word = "false" then .ok false
    else .error .notBoolean
  | _ => .error .notBoolean

section
variable (column : String) (value : Option Value)

def breach (m : Mismatch) : LiteralFault :=
  .breach ⟨column, m, match m with | .notUtf8 | .notPushable _ => none | _ => value⟩

/-- Blames the value for a mismatch. -/
def orBreach {α : Type} : Except Mismatch α → Except LiteralFault α
  | .ok a => .ok a
  | .error m => .error (breach column value m)

def orTooLarge : Option FiniteDouble → Except LiteralFault FiniteDouble
  | some x => .ok x
  | none => .error .integerTooLarge

def doubleOf : Except LiteralFault FiniteDouble :=
  match value with
  | some (.int n) => orTooLarge (Double.ofInt? n)
  | some (.double (.finite x)) => .ok x
  | some (.double _) => .error (breach column value .notFinite)
  | some (.text s) =>
    match readDouble (Text.trimChars s.toList) with
    | some (.finite x) => .ok x
    | some _ => .error (breach column value .notFinite)
    | none => .error (breach column value .malformedNumber)
  | _ => .error (breach column value .notNumber)

def fillLiteral (template text : String) : Except LiteralFault String :=
  match Template.fill template [("literal", .text (Text.quoteString text))] with
  | .ok s => .ok s
  | .error fault => .error (.template fault)

/-- The literal that stands for a value of a column. An integer is written in full: the runtime's own
limit, which refuses to write more than `maxNumeralDigits` as it refuses to read them, is left out
here and in messages. -/
def render (dialect : Dialect) (type : LogicalType) : Except LiteralFault String :=
  match type with
  | .varchar _ => do return Text.quoteString (← orBreach column value (textOf value))
  | .bigint => do return toString (← orBreach column value (integerOf value))
  | .double => do return (← doubleOf column value).text
  | .boolean => do
    return if ← orBreach column value (boolOf value) then dialect.trueLiteral
      else dialect.falseLiteral
  | .date => do
    let day ← orBreach column value (integerOf value)
    match Date.ofDay? day with
    | some date => fillLiteral dialect.dateLiteral date.text
    | none => .error (breach column value .dateOutOfRange)
  | .timestamp => do
    let millis ← orBreach column value (integerOf value)
    match Moment.ofMillis? millis with
    | some moment => fillLiteral dialect.timestampLiteral moment.text
    | none => .error (breach column value .timestampOutOfRange)
  | .varbinary | .time => .error (breach column value (.notPushable type))

end
end Literal
end Pushdown
