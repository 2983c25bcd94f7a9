import Pushdown.Oracle.Types
import Pushdown.Records

/-!
The data dictionary: the statements that read schemas, tables and columns from it, and its rows as
metadata.
-/
namespace Pushdown.Oracle

def schemasStatement : String := "SELECT username FROM all_users ORDER BY username"

/-- Tables by kind, with owner and name if they are given; dropped tables are left out. -/
def tablesStatement : String :=
  "SELECT NULL AS table_cat, o.owner AS table_schem, "
    ++ "       o.object_name AS table_name, o.object_type AS table_type "
    ++ "FROM all_objects o "
    ++ "WHERE o.object_type IN :table_types "
    ++ "  AND o.object_name NOT LIKE 'BIN$%' "
    ++ "  AND (:owner IS NULL OR o.owner = :owner) "
    ++ "  AND (:table_name IS NULL OR o.object_name = :table_name) "
    ++ "ORDER BY table_type, table_schem, table_name"

def columnFields : String :=
  "c.column_name, c.data_type, c.data_length, c.char_length, c.data_precision, c.column_id"

/-- The columns of a table under its own name. -/
def ownColumns : String :=
  "SELECT c.owner AS table_schem, c.table_name, " ++ columnFields ++ " "
    ++ "FROM all_tab_columns c "
    ++ "WHERE (:owner IS NULL OR c.owner = :owner) "
    ++ "  AND (:table_name IS NULL OR c.table_name = :table_name) "

/-- The columns of a table under the name of a synonym for it. -/
def synonymColumns : String :=
  "SELECT s.owner AS table_schem, s.synonym_name AS table_name, " ++ columnFields ++ " "
    ++ "FROM all_synonyms s "
    ++ "JOIN all_tab_columns c ON c.owner = s.table_owner AND c.table_name = s.table_name "
    ++ "WHERE s.db_link IS NULL "
    ++ "  AND (:owner IS NULL OR s.owner = :owner) "
    ++ "  AND (:table_name IS NULL OR s.synonym_name = :table_name) "

def columnsStatement (synonyms : Bool) : String :=
  ownColumns ++ (if synonyms then "UNION ALL " ++ synonymColumns else "") ++ "ORDER BY 1, 2, 8"

/-- The value of a named parameter of a statement. -/
inductive Parameter
  | text (value : Option String)
  | texts (values : List String)
  deriving DecidableEq, Repr

def nameParameters (owner table : Option String) : List (String × Parameter) :=
  [("owner", .text owner), ("table_name", .text table)]

def tableParameters (owner table : Option String) (kinds : List String) :
    List (String × Parameter) :=
  ("table_types", .texts kinds) :: nameParameters owner table

/-- A row of the list of tables, before its fields are checked. -/
structure TableEntry where
  catalog : Raw
  schema : Raw
  table : Raw
  kind : Raw

def TableEntry.row (e : TableEntry) : Checked TableRow :=
  TableRow.ofFields [("catalog", e.catalog), ("schema_name", e.schema), ("table_name", e.table),
    ("table_type", e.kind)]

/-- A row of the list of columns, before its fields are checked. -/
structure ColumnEntry where
  name : Raw
  typeName : Raw
  dataLength : Raw
  charLength : Raw
  precision : Raw

/-- What is wrong with a row of the list of columns. -/
inductive ColumnFault
  | typeName (kind : String)
  | invalid (faults : List Fault)
  deriving DecidableEq, Repr

/-- The size of a column, as it was given. -/
def ColumnEntry.size (e : ColumnEntry) (typeName : String) : Raw :=
  (chooseSize Raw.isZero typeName e.dataLength.given? e.charLength.given?
    e.precision.given?).getD .null

/-- The type name is needed before the other fields are looked at. -/
def ColumnEntry.row (e : ColumnEntry) : Except ColumnFault ColumnRow :=
  match e.typeName with
  | .text typeName =>
    let make name size : ColumnRow := ⟨name, typeCode typeName, some typeName, size⟩
    let size := Raw.orNull Raw.asInteger (e.size typeName)
    (((Checked.start make).app (.under (.field "column_name") e.name.asText)).app
      (.under (.field "column_size") size)).mapError .invalid
  | raw => .error (.typeName raw.kindName)

end Pushdown.Oracle
