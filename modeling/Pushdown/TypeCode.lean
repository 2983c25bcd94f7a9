import Pushdown.LogicalType

/-!
The type codes that database metadata reports, and the logical type each stands for.
-/
namespace Pushdown

/-- The standard SQL type codes. -/
inductive TypeCode
  | bit | tinyint | smallint | integer | bigint | float | real | double | numeric | decimal
  | char | varchar | longvarchar | nchar | nvarchar | longnvarchar
  | date | time | timestamp
  | binary | varbinary | longvarbinary
  | null | other | javaObject | distinct | struct | array | blob | clob | ref | datalink | boolean
  | rowid | nclob | sqlxml | refCursor | timeWithTimezone | timestampWithTimezone
  deriving DecidableEq, Repr

namespace TypeCode

/-- Each code with its number and its name in the standard. -/
def table : List (TypeCode × Int × String) := [
  (.bit, -7, "BIT"), (.tinyint, -6, "TINYINT"), (.smallint, 5, "SMALLINT"),
  (.integer, 4, "INTEGER"), (.bigint, -5, "BIGINT"), (.float, 6, "FLOAT"), (.real, 7, "REAL"),
  (.double, 8, "DOUBLE"), (.numeric, 2, "NUMERIC"), (.decimal, 3, "DECIMAL"), (.char, 1, "CHAR"),
  (.varchar, 12, "VARCHAR"), (.longvarchar, -1, "LONGVARCHAR"), (.nchar, -15, "NCHAR"),
  (.nvarchar, -9, "NVARCHAR"), (.longnvarchar, -16, "LONGNVARCHAR"), (.date, 91, "DATE"),
  (.time, 92, "TIME"), (.timestamp, 93, "TIMESTAMP"), (.binary, -2, "BINARY"),
  (.varbinary, -3, "VARBINARY"), (.longvarbinary, -4, "LONGVARBINARY"), (.null, 0, "NULL"),
  (.other, 1111, "OTHER"), (.javaObject, 2000, "JAVA_OBJECT"), (.distinct, 2001, "DISTINCT"),
  (.struct, 2002, "STRUCT"), (.array, 2003, "ARRAY"), (.blob, 2004, "BLOB"),
  (.clob, 2005, "CLOB"), (.ref, 2006, "REF"), (.datalink, 70, "DATALINK"),
  (.boolean, 16, "BOOLEAN"), (.rowid, -8, "ROWID"), (.nclob, 2011, "NCLOB"),
  (.sqlxml, 2009, "SQLXML"), (.refCursor, 2012, "REF_CURSOR"),
  (.timeWithTimezone, 2013, "TIME_WITH_TIMEZONE"),
  (.timestampWithTimezone, 2014, "TIMESTAMP_WITH_TIMEZONE")]

def number (c : TypeCode) : Int := ((table.lookup c).map (·.1)).getD 0

def name (c : TypeCode) : String := ((table.lookup c).map (·.2)).getD ""

def ofNumber? (n : Int) : Option TypeCode := (table.find? (·.2.1 == n)).map (·.1)

/-- Text types, whose length is the declared column size. -/
def isSizedText : TypeCode → Bool
  | .char | .nchar | .varchar | .nvarchar | .longvarchar | .longnvarchar => true
  | _ => false

/-- The logical type of a code that has no size. Exact numerics become doubles, and what the
engine cannot name is opaque bytes. -/
def fixedType? : TypeCode → Option LogicalType
  | .bit | .boolean => some .boolean
  | .tinyint | .smallint | .integer | .bigint => some .bigint
  | .float | .real | .double | .numeric | .decimal => some .double
  | .binary | .varbinary | .longvarbinary | .blob | .other => some .varbinary
  | .date => some .date
  | .time => some .time
  | .timestamp => some .timestamp
  | .clob | .nclob => some (.varchar none)
  | _ => none

end TypeCode

/-- Text of a declared size: unbounded when the size is missing or not positive, and never past
the longest length. -/
def sizedText (size : Option Int) : LogicalType :=
  match size with
  | none => .varchar none
  | some n =>
    if h : 0 < n.toNat then
      .varchar (some ⟨min n.toNat maxVarcharLength,
        Nat.lt_min.2 ⟨h, by decide⟩, Nat.min_le_right ..⟩)
    else .varchar none

/-- The logical type of a column by code number and declared size; none when columns of that code
are to be left out. -/
def logicalType? (code : Int) (size : Option Int) : Option LogicalType :=
  (TypeCode.ofNumber? code).bind fun c =>
    if c.isSizedText then some (sizedText size) else c.fixedType?

end Pushdown
