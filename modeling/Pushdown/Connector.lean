import Pushdown.Discovery
import Pushdown.ScanStatement
import Pushdown.TypeMapper

/-!
The connector as its engine sees it: tables are discovered, a scan of a table is described by a
split, and a cursor reads the rows of a split through a connection of its own.
-/
namespace Pushdown

/-- Where a connection goes and what is handed over with it. -/
structure Endpoint where
  url : String
  properties : Properties
  deriving DecidableEq

def Endpoint.ofFields (fields : Fields) : Checked Endpoint :=
  ((Checked.start Endpoint.mk).app (fields.required "connection_url" Raw.asText)).app
    (fields.getOr "connection_properties" Raw.asTextMap [])

/-- A piece of a scan: one table and the constraints that its rows have to meet. -/
structure Split where
  connectorId : String
  endpoint : Endpoint
  table : TableHandle
  predicates : Predicates
  deriving DecidableEq

/-- What makes up a connector. The policy also hides the schemas that the configuration names. -/
structure Connector (κ ρ ε τ : Type) where
  config : Config
  client : Client κ ρ ε τ
  mapper : TypeMapper
  dialect : Dialect
  policy : NamePolicy

/-- Rows that are read one at a time: those of a statement, those of a split whose scan has not
begun, or those of a split whose scan holds a connection. -/
inductive Cursor (κ ρ : Type)
  | statement (rows : ρ)
  | planned (split : Split) (columns : List Column)
  | scanning (connection : κ) (rows : ρ)
  | finished

namespace Connector

variable {κ ρ ε τ : Type}

def make (config : Config) (client : Client κ ρ ε τ) (mapper : TypeMapper) (dialect : Dialect)
    (policy : NamePolicy) : Connector κ ρ ε τ :=
  ⟨config, client, mapper, dialect, policy.extend config.excludedSchemas⟩

variable (c : Connector κ ρ ε τ)

def discovery : Discovery κ ρ ε τ :=
  ⟨c.config.connectorId, c.client, c.config.url, c.config.properties, c.policy⟩

def style : SqlStyle := ⟨c.dialect, c.config.identifierQuote⟩

/-- The statement that reads the rows of a table that meet the constraints. -/
def buildSql (table : TableHandle) (columns : List Column) (predicates : Predicates) :
    Run ε String := do
  let sql ← Run.ofExcept Error.literal (c.style.scan table columns predicates)
  Run.note (.scanBuilt table sql)
  return sql

/-- The one split of a table. -/
def split (table : TableHandle) (predicates : Predicates) : Split :=
  ⟨c.config.connectorId, ⟨c.config.url, c.config.properties⟩, table, predicates⟩

/-- A read-only connection. The configured fetch size takes the place of the given one. -/
def openConnection (endpoint : Endpoint) : Run ε κ := do
  let connection ← c.client.connect endpoint.url
    (endpoint.properties.put Properties.fetchSizeKey (toString c.config.fetchSize))
  Run.onFailure (c.client.setReadOnly connection true) (c.client.close connection)
  return connection

/-- The next row of a scan. Its connection is closed after the last row and at a failure. -/
def scanNext (connection : κ) (rows : ρ) : Run ε (Option (τ × Cursor κ ρ)) := do
  match ← Run.onFailure (c.client.next rows) (c.client.close connection) with
  | some (row, rows) => return some (row, .scanning connection rows)
  | none => do
    c.client.close connection
    return none

/-- The next row of a cursor. A scan begins when its first row is asked for. -/
def next : Cursor κ ρ → Run ε (Option (τ × Cursor κ ρ))
  | .statement rows => do
    return (← c.client.next rows).map fun (row, rows) => (row, .statement rows)
  | .planned split columns => do
    let sql ← c.buildSql split.table columns split.predicates
    let connection ← c.openConnection split.endpoint
    let rows ← Run.onFailure (c.client.execute connection sql) (c.client.close connection)
    c.scanNext connection rows
  | .scanning connection rows => c.scanNext connection rows
  | .finished => pure none

/-- Leaves a cursor before its end. -/
def stop : Cursor κ ρ → Run ε Unit
  | .statement rows => c.client.stop rows
  | .scanning connection rows => Run.ensuring (c.client.stop rows) (c.client.close connection)
  | .planned .. | .finished => pure ()

end Connector
end Pushdown
