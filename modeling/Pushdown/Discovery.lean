import Pushdown.Client
import Pushdown.NamePolicy
import Pushdown.TypeCode

/-!
Discovery of schemas, tables and columns. Every operation opens a connection of its own and closes
it before it answers; nothing is remembered between operations.
-/
namespace Pushdown

structure Discovery (κ ρ ε τ : Type) where
  connectorId : String
  client : Client κ ρ ε τ
  url : String
  properties : Properties
  policy : NamePolicy

namespace Discovery

variable {κ ρ ε τ α : Type} (d : Discovery κ ρ ε τ)

/-- Does something with a connection that is closed afterwards in any case. -/
def withConnection (synonyms : Bool) (body : κ → Run ε α) : Run ε α := do
  let connection ← d.client.connect d.url
    (d.properties.put Properties.synonymsKey (if synonyms then "true" else "false"))
  Run.ensuring (body connection) (d.client.close connection)

/-- The schemas that hold user data, as the engine sees them, in order and each once. -/
def listSchemas : Run ε (List String) := do
  let schemas ← d.withConnection false fun connection => do
    d.client.metadata connection
    let names ← d.client.schemas connection
    return Text.sortedNames
      ((names.filter (!d.policy.isSystem ·)).map NamePolicy.display)
  Run.note (.schemasDiscovered schemas.length)
  return schemas

/-- The logical name of a reported table, if its schema is to be seen. -/
def logicalName? (row : TableRow) : Option (Checked TableName) :=
  match row.schema with
  | some schema =>
    if d.policy.isSystem schema then none
    else some (TableName.checked (NamePolicy.display schema) (NamePolicy.display row.table))
  | none => none

/-- The tables of a schema, or of all that are to be seen, in the order of the database. -/
def listTables (schema : Option String) : Run ε (List TableName) := do
  if schema.any d.policy.isSystem then return []
  let tables ← d.withConnection false fun connection => do
    d.client.metadata connection
    let lookup ← match schema with
      | some s => do
        let upper ← d.client.storesUpper connection
        pure (some (d.policy.lookupSchema upper s))
      | none => pure none
    let rows ← d.client.tables connection none lookup none tableKinds
    Run.ofExcept Error.invalid ((rows.filterMap d.logicalName?).mapM id)
  Run.note (.tablesDiscovered tables.length schema)
  return tables

/-- The one physical table that a logical name stands for, if there is one. -/
def resolveTable (name : TableName) : Run ε (Option TableHandle) := do
  if d.policy.isSystem name.schema then return none
  let handles ← d.withConnection false fun connection => do
    d.client.metadata connection
    let upper ← d.client.storesUpper connection
    let rows ← d.client.tables connection none (some (d.policy.lookupSchema upper name.schema))
      (some (d.policy.lookupTable upper name.schema name.table)) tableKinds
    return rows.map fun row =>
      (⟨d.connectorId, name, row.catalog, row.schema, row.table⟩ : TableHandle)
  match handles with
  | [] => do
    Run.note (.noTableMatched name)
    return none
  | [handle] => return some handle
  | _ => throw (.ambiguousTable name handles.length)

/-- The columns of reported rows that have a logical type; each other row is noted. -/
def supportedColumns (table : TableHandle) : List ColumnRow → Run ε (List Column)
  | [] => pure []
  | row :: rest =>
    match logicalType? row.code row.size with
    | some type => do return ⟨row.name, type⟩ :: (← supportedColumns table rest)
    | none => do
      Run.note (.columnSkipped table row)
      supportedColumns table rest

/-- The columns of a table in the order of the database, reached through synonyms too. -/
def listColumns (table : TableHandle) : Run ε (List Column) := do
  let (found, columns) ← d.withConnection true fun connection => do
    d.client.metadata connection
    let (schema, name) ← match table.schema with
      | some s => do
        let upper ← d.client.storesUpper connection
        pure (some (d.policy.lookupSchema upper s), d.policy.lookupTable upper s table.table)
      | none => pure (none, table.table)
    let rows ← d.client.columns connection table.catalog schema (some name)
    let columns ← supportedColumns table rows
    return (!rows.isEmpty, columns)
  if !found then throw (.tableNotFound table.name)
  if columns.isEmpty then throw (.noSupportedColumns table.name)
  return columns

end Discovery
end Pushdown
