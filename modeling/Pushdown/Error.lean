import Pushdown.EnvFile
import Pushdown.Literal
import Pushdown.Oracle.Address
import Pushdown.Records

/-!
What can go wrong in an operation of the connector, and what each case says.
-/
namespace Pushdown

/-- The calls to the database that can fail. -/
inductive Point
  | connect
  | metadata
  | storesUpperCase
  | getSchemas
  | getTables
  | getColumns
  | query
  | setReadOnly
  | execute
  | fetchRow
  | fetchBatch
  | closeResult
  | close
  deriving DecidableEq, Repr

def Point.name : Point → String
  | .connect => "connect"
  | .metadata => "metadata"
  | .storesUpperCase => "stores_upper_case"
  | .getSchemas => "get_schemas"
  | .getTables => "get_tables"
  | .getColumns => "get_columns"
  | .query => "sql"
  | .setReadOnly => "set_read_only"
  | .execute => "execute"
  | .fetchRow => "row"
  | .fetchBatch => "fetchmany"
  | .closeResult => "result_close"
  | .close => "close"

/-- The failures that a caller tells apart. -/
inductive ErrorKind
  | tableNotFound
  | ambiguousTable
  | noSupportedColumns
  | compilerContract
  deriving DecidableEq, Repr

def ErrorKind.name : ErrorKind → String
  | .tableNotFound => "table_not_found"
  | .ambiguousTable => "ambiguous_table"
  | .noSupportedColumns => "no_supported_columns"
  | .compilerContract => "compiler_contract"

inductive Error
  | literal (fault : LiteralFault)
  | typeName (fault : Template.Fault)
  | invalid (faults : List Fault)
  | tableNotFound (name : TableName)
  | ambiguousTable (name : TableName) (matching : Nat)
  | noSupportedColumns (name : TableName)
  | address (fault : Oracle.AddressFault)
  | fetchSize (text : String) (fault : NumeralFault)
  | unknownDialect (name : String)
  | columnType (kind : String)
  | setting (fault : EnvFile.SettingFault)
  | noResult
  | failed (point : Point)
  deriving DecidableEq

/-- How much of a refused numeral its message shows. -/
def shownNumeralLength : Nat := 200

def NumeralFault.message (text : String) : NumeralFault → String
  | .malformed => "invalid literal for int() with base 10: "
      ++ String.ofList ((Text.display text).toList.take shownNumeralLength)
  | .tooManyDigits count => "Exceeds the limit (" ++ toString maxNumeralDigits
      ++ " digits) for integer string conversion: value has " ++ toString count
      ++ " digits; use sys.set_int_max_str_digits() to increase the limit"

def LiteralFault.message : LiteralFault → String
  | .breach b => b.message
  | .integerTooLarge => "int too large to convert to float"
  | .template fault => fault.message

namespace Error

/-- What an error says; for invalid records the faults speak for themselves. -/
def message : Error → String
  | .literal fault => fault.message
  | .typeName fault => fault.message
  | .invalid _ => ""
  | .tableNotFound name => "Table not found: " ++ name.text
  | .ambiguousTable name matching =>
    "Multiple tables matched: " ++ name.text ++ " (" ++ toString matching ++ " matches)"
  | .noSupportedColumns name => "Table has no supported column types: " ++ name.text
  | .address fault => fault.message
  | .fetchSize text fault => fault.message text
  | .unknownDialect name =>
    "Unknown dialect: " ++ Text.display name ++ ". Available: oracle"
  | .columnType kind => "'" ++ kind ++ "' object has no attribute 'strip'"
  | .setting fault => fault.message
  | .noResult => "'NoneType' object has no attribute 'close'"
  | .failed point => point.name ++ " failed"

def kind? : Error → Option ErrorKind
  | .literal (.breach _) => some .compilerContract
  | .tableNotFound _ => some .tableNotFound
  | .ambiguousTable .. => some .ambiguousTable
  | .noSupportedColumns _ => some .noSupportedColumns
  | _ => none

end Error

/-- What the connector notes for whoever debugs it. -/
inductive Note
  | schemasDiscovered (count : Nat)
  | tablesDiscovered (count : Nat) (schema : Option String)
  | noTableMatched (name : TableName)
  | columnSkipped (table : TableHandle) (row : ColumnRow)
  | scanBuilt (table : TableHandle) (sql : String)
  | connectionOpened (address : String)
  deriving DecidableEq

def Note.message : Note → String
  | .schemasDiscovered count => "Discovered " ++ toString count ++ " schemas"
  | .tablesDiscovered count schema =>
    let name := match schema with
      | some s => if s = "" then "<all>" else s
      | none => "<all>"
    "Discovered " ++ toString count ++ " tables in schema " ++ name
  | .noTableMatched name => "No table matched " ++ name.text
  | .columnSkipped table row =>
    "Skipping column " ++ row.name ++ " of " ++ table.text ++ ": unsupported type "
      ++ toString row.code ++ " (" ++ row.typeName.getD "None" ++ ")"
  | .scanBuilt table sql => "Built SQL for " ++ table.text ++ ": " ++ sql
  | .connectionOpened address => "Opened Oracle connection to " ++ address

end Pushdown
