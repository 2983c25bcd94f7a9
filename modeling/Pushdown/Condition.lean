import Pushdown.Domain
import Pushdown.Literal

/-!
Domains as SQL conditions on one column: a disjunction of conjunctions of comparisons. The text
has the parentheses that the order of AND and OR needs, within the condition and around it.
-/
namespace Pushdown

inductive Comparison
  | lt | le | eq | ge | gt
  deriving DecidableEq, Repr

def Comparison.symbol : Comparison → String
  | .lt => "<"
  | .le => "<="
  | .eq => "="
  | .ge => ">="
  | .gt => ">"

/-- A test of the column, with the constant already written as a literal. -/
inductive Test
  | compare (op : Comparison) (literal : String)
  | isNull
  | isNotNull
  deriving DecidableEq, Repr

def Test.text (column : String) : Test → String
  | .compare op literal => column ++ " " ++ op.symbol ++ " " ++ literal
  | .isNull => column ++ " IS NULL"
  | .isNotNull => column ++ " IS NOT NULL"

inductive Condition
  | never
  | anyOf (disjuncts : List (List Test))
  deriving DecidableEq, Repr

namespace Condition

def conjunctionText (column : String) (tests : List Test) : String :=
  " AND ".intercalate (tests.map (·.text column))

def disjunctText (column : String) (tests : List Test) : String :=
  if 1 < tests.length then "(" ++ conjunctionText column tests ++ ")"
  else conjunctionText column tests

/-- The text of a condition on a column, given the quoted name of the column. -/
def text (dialect : Dialect) (column : String) : Condition → String
  | .never => dialect.alwaysFalse
  | .anyOf [tests] => conjunctionText column tests
  | .anyOf disjuncts =>
    "(" ++ " OR ".intercalate (disjuncts.map (disjunctText column)) ++ ")"

section
variable (column : String) (dialect : Dialect) (type : LogicalType)

def comparison (op : Comparison) (value : Option Value) : Except LiteralFault Test := do
  return .compare op (← Literal.render column value dialect type)

def lowTests (range : Range) : Except LiteralFault (List Test) :=
  match range.low with
  | none => .ok []
  | some low => do
    return [← comparison column dialect type (if range.lowInclusive then .ge else .gt) low]

def highTests (range : Range) : Except LiteralFault (List Test) :=
  match range.high with
  | none => .ok []
  | some high => do
    return [← comparison column dialect type (if range.highInclusive then .le else .lt) high]

/-- The tests of a range that is not a single value; without bounds it still excludes null. -/
def rangeTests (range : Range) : Except LiteralFault (List Test) := do
  let tests := (← lowTests column dialect type range) ++ (← highTests column dialect type range)
  return if tests.isEmpty then [.isNotNull] else tests

def valueTests (value : Option Value) : Except LiteralFault (List Test) := do
  return [← comparison column dialect type .eq value]

/-- The condition a domain puts on a column; none when it is left to the engine. Ranges of a
single value are tested with the listed values, after the other ranges. -/
def ofDomain (domain : Domain) : Except LiteralFault (Option Condition) :=
  if domain.isAll || !type.isPushable then .ok none
  else
    match domain.set with
    | .none => .ok (some (if domain.nullAllowed then .anyOf [[.isNull]] else .never))
    | .all => .ok (some (.anyOf [[.isNotNull]]))
    | .some ranges values _ => do
      let spans := ranges.filter (·.single?.isNone)
      let points := ranges.filterMap (·.single?)
      let spanTests ← spans.mapM (rangeTests column dialect type)
      let pointTests ← (points.map some ++ values).mapM (valueTests column dialect type)
      return some (.anyOf
        (spanTests ++ pointTests ++ if domain.nullAllowed then [[.isNull]] else []))

end
end Condition

/-- The SQL text of the condition a domain puts on a column. -/
def SqlStyle.condition (s : SqlStyle) (column : String) (domain : Domain) (type : LogicalType) :
    Except LiteralFault (Option String) := do
  return (← Condition.ofDomain column s.dialect type domain).map
    (·.text s.dialect (s.quote column))

end Pushdown
