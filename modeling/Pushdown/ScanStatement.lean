import Pushdown.Condition
import Pushdown.Predicates

/-!
The statement that reads the rows of one table. Its text depends on nothing but the table, the
columns, the constraints and the style.
-/
namespace Pushdown
namespace SqlStyle

/-- The conditions of the constraints that SQL can express, in their order. -/
def conjuncts (s : SqlStyle) (predicates : Predicates) : Except LiteralFault (List String) :=
  if predicates.isNone then .ok [s.dialect.alwaysFalse]
  else do
    let conditions ← predicates.entries.mapM fun e =>
      s.condition e.column.name e.domain e.column.type
    return conditions.filterMap id

/-- The quoted columns; a bare null when that leaves nothing to select. -/
def projection (s : SqlStyle) (columns : List Column) : String :=
  let names := ", ".intercalate (columns.map fun c => s.quote c.name)
  if names = "" then "NULL" else names

/-- The quoted physical name, without the missing and empty parts before the table. -/
def source (s : SqlStyle) (table : TableHandle) : String :=
  let owners := (table.catalog.toList ++ table.schema.toList).filter (· ≠ "")
  ".".intercalate ((owners ++ [table.table]).map s.quote)

def scan (s : SqlStyle) (table : TableHandle) (columns : List Column) (predicates : Predicates) :
    Except LiteralFault String := do
  let conditions ← s.conjuncts predicates
  let select := "SELECT " ++ s.projection columns ++ " FROM " ++ s.source table
  return if conditions.isEmpty then select
    else select ++ " WHERE " ++ " AND ".intercalate conditions

end SqlStyle
end Pushdown
