import Pushdown.Dialect
import Pushdown.NamePolicy
import Pushdown.Text.Blank
import Pushdown.TypeMapper

/-!
The Oracle dialect: its literals, type names and system schemas, and the codes and sizes that
stand for its data types in metadata.
-/
namespace Pushdown.Oracle

/-- Schemas without user data. -/
def systemSchemas : List String :=
  ["SYS", "SYSTEM", "WMSYS", "INFORMATION_SCHEMA", "XS$NULL", "XDB", "PUBLIC", "CTXSYS", "ODMRSYS"]

def namePolicy : NamePolicy := .ofNames systemSchemas

/-- Dates compare with plain text; timestamps need their format spelled out. -/
def dialect : Dialect where
  name := "oracle"
  dateLiteral := "{literal}"
  timestampLiteral := "TO_TIMESTAMP({literal}, 'yyyy-mm-dd hh24:mi:ss')"
  trueLiteral := "1"
  falseLiteral := "0"
  alwaysFalse := "1 = 0"

def typeMapper : TypeMapper where
  typeName
    | .boolean => "NUMBER(1)"
    | .bigint => "NUMBER(19)"
    | .double => "BINARY_DOUBLE"
    | .varchar => "VARCHAR2({length} CHAR)"
    | .varbinary => "BLOB"
    | .date => "DATE"
    | .time | .timestamp => "TIMESTAMP"
  unboundedText := some "CLOB"

/-- Codes of data types that the standard does not know. -/
def timestampTzCode : Int := -101

def timestampLocalTzCode : Int := -102

def intervalYearCode : Int := -103

def intervalDayCode : Int := -104

def bfileCode : Int := -13

def plainTypeCodes : List (String × Int) := [
  ("NUMBER", TypeCode.decimal.number), ("FLOAT", TypeCode.float.number),
  ("BINARY_FLOAT", TypeCode.real.number), ("BINARY_DOUBLE", TypeCode.double.number),
  ("CHAR", TypeCode.char.number), ("NCHAR", TypeCode.nchar.number),
  ("VARCHAR", TypeCode.varchar.number), ("VARCHAR2", TypeCode.varchar.number),
  ("NVARCHAR2", TypeCode.nvarchar.number), ("LONG", TypeCode.longvarchar.number),
  ("RAW", TypeCode.varbinary.number), ("LONG RAW", TypeCode.longvarbinary.number),
  ("DATE", TypeCode.date.number), ("BLOB", TypeCode.blob.number),
  ("CLOB", TypeCode.clob.number), ("NCLOB", TypeCode.nclob.number),
  ("ROWID", TypeCode.rowid.number), ("UROWID", TypeCode.rowid.number), ("BFILE", bfileCode)]

/-- A type name as it is compared: without blanks around it, in upper case. -/
def foldedTypeName (typeName : String) : String := Text.upper (Text.trim typeName)

def startsWith (front s : String) : Bool := front.toList.isPrefixOf s.toList

def mentions (piece s : String) : Bool := Text.occurs piece.toList s.toList

/-- The code of a data type. Timestamps and intervals go by how their names begin; a name that is
not known is an object type. -/
def typeCode (typeName : String) : Int :=
  let name := foldedTypeName typeName
  if startsWith "TIMESTAMP" name then
    if mentions "LOCAL TIME ZONE" name then timestampLocalTzCode
    else if mentions "TIME ZONE" name then timestampTzCode
    else TypeCode.timestamp.number
  else if startsWith "INTERVAL YEAR" name then intervalYearCode
  else if startsWith "INTERVAL DAY" name then intervalDayCode
  else (plainTypeCodes.lookup name).getD TypeCode.other.number

/-- Text types whose size counts characters. -/
def characterTypes : List String := ["CHAR", "NCHAR", "VARCHAR", "VARCHAR2", "NVARCHAR2"]

/-- Which of its sizes is that of a column: characters for text where they are counted, precision
for numbers, bytes for the rest. -/
def chooseSize {α : Type} (isZero : α → Bool) (typeName : String)
    (dataLength charLength precision : Option α) : Option α :=
  let name := foldedTypeName typeName
  if characterTypes.contains name then
    match charLength with
    | some n => if isZero n then dataLength else some n
    | none => dataLength
  else if ["NUMBER", "FLOAT"].contains name then precision
  else dataLength

def columnSize (typeName : String) (dataLength charLength precision : Option Int) : Option Int :=
  chooseSize (· == 0) typeName dataLength charLength precision

end Pushdown.Oracle
