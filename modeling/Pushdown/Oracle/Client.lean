import Pushdown.Client
import Pushdown.Oracle.Dictionary

/-!
Connections to an Oracle database. Each has an engine of its own, which is disposed of when the
connection is closed. Statements run when their first row is asked for.
-/
namespace Pushdown.Oracle

/-- The library that talks to the database. An engine is made for an address, connected to once and
disposed of, so that one number stands for an engine and for its connection. A statement may have a
result `ρ`, which gives rows `τ` in batches; the rows of a query are entries of the dictionary. -/
structure Library (ρ ε τ : Type) where
  create : String → Int → Properties → Run ε Nat
  connect : Nat → Run ε Unit
  schemas : Nat → String → Run ε (List String)
  tables : Nat → String → List (String × Parameter) → Run ε (List TableEntry)
  columns : Nat → String → List (String × Parameter) → Run ε (List ColumnEntry)
  run : Nat → String → Run ε (Option ρ)
  fetch : Nat → Int → ρ → Run ε (List τ × ρ)
  closeResult : Nat → ρ → Run ε Unit
  close : Nat → Run ε Unit
  dispose : Nat → Run ε Unit

structure Connection where
  engine : Nat
  fetchSize : Int
  synonyms : Bool
  deriving DecidableEq, Repr

def readOnlyStatement : String := "SET TRANSACTION READ ONLY"

def columnError : ColumnFault → Error
  | .typeName kind => .columnType kind
  | .invalid faults => .invalid faults

namespace Library

/-- The rows of a statement: not run yet, or the rest of a batch and the result it came from. -/
inductive Rows (ρ τ : Type)
  | waiting (connection : Connection) (sql : String)
  | reading (connection : Connection) (batch : List τ) (result : ρ)

/-- The number of rows to fetch at once. -/
def fetchSize (properties : Properties) : Except Error Int :=
  match properties.lookup Properties.fetchSizeKey with
  | none => .ok defaultFetchSize
  | some text =>
    match readInteger text.toList with
    | .ok n => .ok n
    | .error fault => .error (.fetchSize text fault)

/-- Whether columns are also looked up through synonyms. -/
def wantsSynonyms (properties : Properties) : Bool :=
  match properties.lookup Properties.synonymsKey with
  | none => false
  | some text => Text.lower (Text.trim text) == "true"

/-- The properties that say who connects. -/
def credentials (properties : Properties) : Properties :=
  [Properties.userKey, Properties.passwordKey].filterMap fun key =>
    (properties.lookup key).map (key, ·)

variable {ρ ε τ : Type} (l : Library ρ ε τ)

def openConnection (url : String) (properties : Properties) : Run ε Connection := do
  let fetchSize ← Run.ofExcept id (fetchSize properties)
  let address ← Run.ofExcept Error.address (clientAddress url)
  let engine ← l.create address fetchSize (credentials properties)
  Run.onFailure (l.connect engine) (l.dispose engine)
  Run.note (.connectionOpened address)
  return ⟨engine, fetchSize, wantsSynonyms properties⟩

def closeConnection (connection : Connection) : Run ε Unit :=
  Run.ensuring (l.close connection.engine) (l.dispose connection.engine)

/-- The next row of a result, with the result closed at its end and at a failure. -/
def readOn (connection : Connection) (result : ρ) : Run ε (Option (τ × Rows ρ τ)) := do
  let (batch, result) ← Run.onFailure (l.fetch connection.engine connection.fetchSize result)
    (l.closeResult connection.engine result)
  match batch with
  | [] => do
    l.closeResult connection.engine result
    return none
  | row :: batch => return some (row, .reading connection batch result)

/-- The next row. A statement without a result has no rows that could be read. -/
def next : Rows ρ τ → Run ε (Option (τ × Rows ρ τ))
  | .waiting connection sql => do
    match ← l.run connection.engine sql with
    | some result => l.readOn connection result
    | none => throw .noResult
  | .reading connection [] result => l.readOn connection result
  | .reading connection (row :: batch) result => pure (some (row, .reading connection batch result))

/-- Names are stored in upper case, and there are no catalogs. A connection can only be made
read-only, which has to be its first statement. -/
def client : Client Connection (Rows ρ τ) ε τ where
  connect := l.openConnection
  metadata _ := pure ()
  storesUpper _ := pure true
  schemas connection := l.schemas connection.engine schemasStatement
  tables connection _ schema table kinds := do
    let entries ← l.tables connection.engine tablesStatement (tableParameters schema table kinds)
    Run.ofExcept Error.invalid (entries.mapM TableEntry.row)
  columns connection _ schema table := do
    let entries ← l.columns connection.engine (columnsStatement connection.synonyms)
      (nameParameters schema table)
    Run.ofExcept columnError (entries.mapM ColumnEntry.row)
  setReadOnly connection value := do
    if value then discard (l.run connection.engine readOnlyStatement)
  execute connection sql := pure (.waiting connection sql)
  next := l.next
  stop
    | .waiting .. => pure ()
    | .reading connection _ result => l.closeResult connection.engine result
  close := l.closeConnection

end Library
end Pushdown.Oracle
