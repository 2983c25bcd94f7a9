import Pushdown.Client

/-!
A database held in memory. Every call to it is an event, recorded before the call can fail.
-/
namespace Pushdown

/-- The columns that the database reports for one table. -/
structure TableColumns where
  schema : Option String
  table : String
  columns : List ColumnRow
  deriving DecidableEq, Repr

/-- What the database holds and which calls fail. Every statement gives the same rows, and reading
them fails at the given one. -/
structure Database (τ : Type) where
  schemas : List String
  tables : List TableRow
  columns : List TableColumns
  storesUpper : Bool
  rows : List τ
  outage : Outage
  failingRow : Option Nat

namespace Database

inductive Event
  | connect (url : String) (properties : Properties)
  | schemas
  | tables (catalog schema table : Option String) (kinds : List String)
  | columns (catalog schema table : Option String)
  | setReadOnly (connection : Nat) (value : Bool)
  | execute (connection : Nat) (sql : String)
  | close (connection : Nat)
  deriving DecidableEq, Repr

/-- The rows not read yet and the number of those that were. -/
structure Reading (τ : Type) where
  index : Nat
  rest : List τ

variable {τ : Type} (db : Database τ)

/-- An event, then the call that it stands for. -/
def call (e : Event) (p : Point) : Run Event Unit := do
  Run.event e
  Run.call db.outage p

/-- The tables with the given names and one of the given kinds; a missing name matches any. -/
def findTables (schema table : Option String) (kinds : List String) : List TableRow :=
  db.tables.filter fun row =>
    (schema.isNone || row.schema == schema) && table.all (row.table == ·)
      && kinds.contains row.kind

/-- The columns of the first table with exactly the given names. -/
def findColumns (schema table : Option String) : List ColumnRow :=
  ((db.columns.find? fun t => t.schema == schema && some t.table == table).map (·.columns)).getD []

def next (reading : Reading τ) : Run Event (Option (τ × Reading τ)) := do
  if db.failingRow = some reading.index then throw (.failed .fetchRow)
  Run.call db.outage .fetchRow
  match reading.rest with
  | [] => return none
  | row :: rest => return some (row, ⟨reading.index + 1, rest⟩)

/-- Connections are numbered from one as they open. Statements run at once, and their rows need no
cleanup. -/
def client : Client Nat (Reading τ) Event τ where
  connect url properties := do
    db.call (.connect url properties) .connect
    Run.number
  metadata _ := Run.call db.outage .metadata
  storesUpper _ := do
    Run.call db.outage .storesUpperCase
    return db.storesUpper
  schemas _ := do
    db.call .schemas .getSchemas
    return db.schemas
  tables _ catalog schema table kinds := do
    db.call (.tables catalog schema table kinds) .getTables
    return db.findTables schema table kinds
  columns _ catalog schema table := do
    db.call (.columns catalog schema table) .getColumns
    return db.findColumns schema table
  setReadOnly connection value := db.call (.setReadOnly connection value) .setReadOnly
  execute connection sql := do
    db.call (.execute connection sql) .execute
    return ⟨0, db.rows⟩
  next := db.next
  stop _ := pure ()
  close connection := db.call (.close connection) .close

end Database
end Pushdown
