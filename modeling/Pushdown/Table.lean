import Pushdown.LogicalType
import Pushdown.Text.Case

/-!
Tables and columns. The engine names a table in lower case; a handle keeps the physical names that
the database reported for it.
-/
namespace Pushdown

/-- The engine's name of a table. -/
structure TableName where
  schema : String
  table : String
  schema_ne : schema ≠ ""
  table_ne : table ≠ ""
  deriving DecidableEq

inductive NameFault
  | emptySchema
  | emptyTable
  deriving DecidableEq, Repr

def NameFault.message : NameFault → String
  | .emptySchema | .emptyTable => "Schema and table names must not be empty"

namespace TableName

/-- A name from any spelling of its parts, unless one is empty; every empty part is reported. -/
def make (schema table : String) : Except (List NameFault) TableName :=
  if hs : schema ≠ "" then
    if ht : table ≠ "" then
      .ok ⟨Text.lower schema, Text.lower table, Text.lower_ne_empty hs, Text.lower_ne_empty ht⟩
    else .error [.emptyTable]
  else if table ≠ "" then .error [.emptySchema]
  else .error [.emptySchema, .emptyTable]

def text (n : TableName) : String := n.schema ++ "." ++ n.table

end TableName

/-- One physical table, resolved from a logical name. -/
structure TableHandle where
  connectorId : String
  name : TableName
  catalog : Option String
  schema : Option String
  table : String
  deriving DecidableEq

/-- The physical name with the missing and empty parts left out. -/
def TableHandle.text (t : TableHandle) : String :=
  ".".intercalate ((t.catalog.toList ++ t.schema.toList ++ [t.table]).filter (· ≠ ""))

structure Column where
  name : String
  type : LogicalType
  deriving DecidableEq, Repr

/-- A table, view or synonym as the database reports it. -/
structure TableRow where
  catalog : Option String
  schema : Option String
  table : String
  kind : String
  deriving DecidableEq, Repr

/-- A column as the database reports it. -/
structure ColumnRow where
  name : String
  code : Int
  typeName : Option String
  size : Option Int
  deriving DecidableEq, Repr

end Pushdown
