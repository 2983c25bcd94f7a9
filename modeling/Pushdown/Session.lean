import Pushdown.Connector
import Pushdown.Database
import Pushdown.Oracle.Engine

/-!
A session with a connector: commands that run one after the other over the same journal. A failed
command ends itself only; cursors are numbered as they are opened.
-/
namespace Pushdown

/-- What can be asked of a connector or of an open connection. -/
inductive Request (κ : Type)
  | listSchemas
  | listTables (schema : Option String)
  | resolveTable (name : TableName)
  | listColumns (table : TableHandle)
  | buildSql (table : TableHandle) (columns : List Column) (predicates : Predicates)
  | openConnection (endpoint : Endpoint)
  | connect (endpoint : Endpoint)
  | setReadOnly (connection : κ) (value : Bool)
  | close (connection : κ)
  | storesUpper (connection : κ)
  | schemas (connection : κ)
  | tables (connection : κ) (catalog schema table : Option String) (kinds : List String)
  | columns (connection : κ) (catalog schema table : Option String)

/-- A request, or the opening, advancing or leaving of a cursor. -/
inductive Command (κ : Type)
  | request (r : Request κ)
  | execute (connection : κ) (sql : String)
  | scan (split : Split) (columns : List Column)
  | advance (cursor : Nat) (count : Nat)
  | stop (cursor : Nat)

/-- Whether a cursor has more to give. -/
inductive Status
  | more
  | ended
  | failed (e : Error)
  deriving DecidableEq

inductive Answer (κ τ : Type)
  | done
  | truth (b : Bool)
  | text (s : String)
  | names (names : List String)
  | tableNames (names : List TableName)
  | handle (table : Option TableHandle)
  | columns (columns : List Column)
  | tableRows (rows : List TableRow)
  | columnRows (rows : List ColumnRow)
  | connection (connection : κ)
  | cursor (number : Nat)
  | rows (rows : List τ) (status : Status)

structure Session (κ ρ ε : Type) where
  journal : Journal ε
  cursors : List (Cursor κ ρ)

namespace Session

variable {κ ρ ε τ : Type} (c : Connector κ ρ ε τ)

def empty : Session κ ρ ε := ⟨.empty, []⟩

/-- At most `count` rows of a cursor; after the last row or a failure it is finished. -/
def read : Nat → Cursor κ ρ → Journal ε → (List τ × Status × Cursor κ ρ) × Journal ε
  | 0, cursor, j => (([], .more, cursor), j)
  | count + 1, cursor, j =>
    match (c.next cursor).outcome j with
    | (.ok (some (row, cursor)), j) =>
      let ((rows, status, cursor), j) := read count cursor j
      ((row :: rows, status, cursor), j)
    | (.ok none, j) => (([], .ended, .finished), j)
    | (.error e, j) => (([], .failed e, .finished), j)

def perform : Request κ → Run ε (Answer κ τ)
  | .listSchemas => .names <$> c.discovery.listSchemas
  | .listTables schema => .tableNames <$> c.discovery.listTables schema
  | .resolveTable name => .handle <$> c.discovery.resolveTable name
  | .listColumns table => .columns <$> c.discovery.listColumns table
  | .buildSql table columns predicates => .text <$> c.buildSql table columns predicates
  | .openConnection endpoint => .connection <$> c.openConnection endpoint
  | .connect endpoint => .connection <$> c.client.connect endpoint.url endpoint.properties
  | .setReadOnly connection value => do
    c.client.setReadOnly connection value
    return .done
  | .close connection => do
    c.client.close connection
    return .done
  | .storesUpper connection => do
    c.client.metadata connection
    return .truth (← c.client.storesUpper connection)
  | .schemas connection => do
    c.client.metadata connection
    return .names (← c.client.schemas connection)
  | .tables connection catalog schema table kinds => do
    c.client.metadata connection
    return .tableRows (← c.client.tables connection catalog schema table kinds)
  | .columns connection catalog schema table => do
    c.client.metadata connection
    return .columnRows (← c.client.columns connection catalog schema table)

/-- Runs one command. -/
def step (s : Session κ ρ ε) : Command κ → Except Error (Answer κ τ) × Session κ ρ ε
  | .request r =>
    let (result, j) := (perform c r).outcome s.journal
    (result, ⟨j, s.cursors⟩)
  | .execute connection sql =>
    match (c.client.execute connection sql).outcome s.journal with
    | (.ok rows, j) => (.ok (.cursor s.cursors.length), ⟨j, s.cursors ++ [.statement rows]⟩)
    | (.error e, j) => (.error e, ⟨j, s.cursors⟩)
  | .scan split columns =>
    (.ok (.cursor s.cursors.length), ⟨s.journal, s.cursors ++ [.planned split columns]⟩)
  | .advance number count =>
    let ((rows, status, cursor), j) := read c count (s.cursors.getD number .finished) s.journal
    (.ok (.rows rows status), ⟨j, s.cursors.set number cursor⟩)
  | .stop number =>
    let (result, j) := (c.stop (s.cursors.getD number .finished)).outcome s.journal
    (result.map fun _ => .done, ⟨j, s.cursors.set number .finished⟩)

/-- Runs commands in their order. -/
def runAll (s : Session κ ρ ε) : List (Command κ) → Session κ ρ ε
  | [] => s
  | command :: rest => runAll (step c s command).2 rest

end Session

/-- A connector to a database held in memory. -/
def Connector.ofDatabase {τ : Type} (config : Config) (db : Database τ) (mapper : TypeMapper)
    (dialect : Dialect) (policy : NamePolicy) :
    Connector Nat (Database.Reading τ) Database.Event τ :=
  .make config db.client mapper dialect policy

/-- A connector for the dialect that the configuration names. -/
def Connector.ofConfig {τ : Type} (config : Config) (engine : Oracle.Engine τ) :
    Except Error (Connector Oracle.Connection (Oracle.Rows τ) Oracle.Event τ) :=
  if config.dialect = "oracle" then
    .ok (.make config engine.client Oracle.typeMapper Oracle.dialect Oracle.namePolicy)
  else .error (.unknownDialect config.dialect)

end Pushdown
