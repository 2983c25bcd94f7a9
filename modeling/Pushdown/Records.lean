import Pushdown.Dialect
import Pushdown.Field
import Pushdown.Predicates

/-!
Records built from fields: types, ranges, domains, constraints, tables and dialects. A rule about
a record as a whole is looked at only when every field is valid.
-/
namespace Pushdown

def LogicalType.ofFields (fields : Fields) : Checked LogicalType := do
  let (kind, length) ← ((Checked.start Prod.mk).app
      (fields.required "kind" (Raw.asChoice (TypeKind.all.map (·.name)) TypeKind.ofName?))).app
    (fields.getOr "length" (Raw.orNull Raw.asInteger) none)
  match LogicalType.make kind length with
  | .ok type => .ok type
  | .error fault => .reject fault.message

/-- The type of text of a given length. -/
def LogicalType.textOfLength (length : Option Int) : Checked LogicalType :=
  match LogicalType.make .varchar length with
  | .ok type => .ok type
  | .error fault => .reject fault.message

def Column.ofFields (fields : Fields) (type : LogicalType) : Checked Column :=
  (fields.required "name" Raw.asText).map fun name => ⟨name, type⟩

def Range.ofBounds (b : Bounds) : Checked Range :=
  match Range.make b with
  | .ok range => .ok range
  | .error fault => .reject fault.message

/-- A range from its bounds and the flags that tell whether they belong to it. -/
def Range.ofFields (low high : Option Value) (fields : Fields) (inclusive : Bool) :
    Checked Range := do
  let (lowInclusive, highInclusive) ← ((Checked.start Prod.mk).app
      (fields.getOr "low_inclusive" Raw.asBool inclusive)).app
    (fields.getOr "high_inclusive" Raw.asBool inclusive)
  Range.ofBounds ⟨low, lowInclusive, high, highInclusive⟩

def Domain.ofFields (ranges : List Range) (values : List (Option Value)) (fields : Fields) :
    Checked Domain := do
  let (kind, nullAllowed) ← ((Checked.start Prod.mk).app
      (fields.getOr "kind" (Raw.asChoice ["all", "none", "some"] ValueSetKind.ofName?) .some)).app
    (fields.getOr "null_allowed" Raw.asBool false)
  match Domain.make kind ranges values nullAllowed with
  | .ok domain => .ok domain
  | .error fault => .reject fault.message

def Predicates.checked : Except RepeatedColumns Predicates → Checked Predicates
  | .ok predicates => .ok predicates
  | .error fault => .reject fault.message

def Predicates.ofFields (entries : List Constraint) (fields : Fields) : Checked Predicates := do
  Predicates.checked (Predicates.make entries (← fields.getOr "is_none" Raw.asBool false))

def NameFault.path : NameFault → List PathStep
  | .emptySchema => [.field "schema_name"]
  | .emptyTable => [.field "table_name"]

def NameFault.fault (f : NameFault) : Fault := ⟨f.path, .rejected f.message⟩

/-- A logical name; empty parts are faults of their fields. -/
def TableName.checked (schema table : String) : Checked TableName :=
  match TableName.make schema table with
  | .ok name => .ok name
  | .error faults => .error (faults.map NameFault.fault)

def Raw.asNamePart (raw : Raw) : Checked String := do
  let s ← raw.asText
  if s = "" then .reject NameFault.emptyTable.message else .ok s

def TableName.ofFields (fields : Fields) : Checked TableName := do
  let (schema, table) ← ((Checked.start Prod.mk).app
      (fields.required "schema_name" Raw.asNamePart)).app
    (fields.required "table_name" Raw.asNamePart)
  TableName.checked schema table

def TableHandle.ofFields (name : TableName) (fields : Fields) : Checked TableHandle :=
  let make connectorId catalog schema table : TableHandle :=
    ⟨connectorId, name, catalog, schema, table⟩
  ((((Checked.start make).app (fields.required "connector_id" Raw.asText)).app
    (fields.getOr "catalog" (Raw.orNull Raw.asText) none)).app
    (fields.getOr "schema_name" (Raw.orNull Raw.asText) none)).app
    (fields.required "table_name" Raw.asText)

def TableRow.ofFields (fields : Fields) : Checked TableRow :=
  ((((Checked.start TableRow.mk).app (fields.getOr "catalog" (Raw.orNull Raw.asText) none)).app
    (fields.getOr "schema_name" (Raw.orNull Raw.asText) none)).app
    (fields.required "table_name" Raw.asText)).app
    (fields.getOr "table_type" Raw.asText "TABLE")

def Dialect.ofFields (fields : Fields) : Checked Dialect :=
  let text name absent := fields.getOr name Raw.asText absent
  ((((((Checked.start Dialect.mk).app (text "name" generic.name)).app
    (text "date_literal" generic.dateLiteral)).app
    (text "timestamp_literal" generic.timestampLiteral)).app
    (text "true_literal" generic.trueLiteral)).app
    (text "false_literal" generic.falseLiteral)).app
    (text "always_false" generic.alwaysFalse)

end Pushdown
