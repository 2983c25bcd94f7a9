import Pushdown.Oracle.Client

/-!
A database engine held in memory. An engine is made for an address, opened once and disposed of;
statements give their rows in batches. Every call is an event, recorded before the call can fail.
-/
namespace Pushdown.Oracle

/-- What the engine holds and which calls fail. Dictionary rows are given whatever is asked for,
every statement gives the same rows, and a result fails to give the batch of the given number. -/
structure Engine (τ : Type) where
  schemas : List String
  tables : List TableEntry
  columns : List ColumnEntry
  rows : List τ
  outage : Outage
  failingBatch : Option Nat

/-- What an engine was asked for, with the number of the engine. -/
inductive Event
  | create (engine : Nat) (address : String) (batchSize : Int) (arguments : Properties)
  | connect (engine : Nat)
  | query (engine : Nat) (sql : String) (parameters : Option (List (String × Parameter)))
  | statement (engine : Nat) (sql : String)
  | fetch (engine : Nat) (size : Int)
  | closeResult (engine : Nat)
  | close (engine : Nat)
  | dispose (engine : Nat)
  deriving DecidableEq, Repr

/-- A result that was not read to its end: the rows left and the batches given. -/
structure Result (τ : Type) where
  rest : List τ
  batches : Nat

/-- The rows of a statement that an engine in memory runs. -/
abbrev Rows (τ : Type) := Library.Rows (Result τ) τ

namespace Engine

variable {τ : Type} (e : Engine τ)

/-- An event, then the call that it stands for. -/
def call (event : Event) (p : Point) : Run Event Unit := do
  Run.event event
  Run.call e.outage p

/-- A new engine for an address. -/
def create (address : String) (batchSize : Int) (arguments : Properties) : Run Event Nat := do
  let engine ← Run.number
  Run.event (.create engine address batchSize arguments)
  return engine

def connect (engine : Nat) : Run Event Unit := e.call (.connect engine) .connect

def dispose (engine : Nat) : Run Event Unit := Run.event (.dispose engine)

def query (engine : Nat) (sql : String) (parameters : Option (List (String × Parameter))) :
    Run Event Unit := e.call (.query engine sql parameters) .query

/-- Whether a statement sets up the transaction. Such a statement has no result. -/
def isSetup (sql : String) : Bool := startsWith "SET TRANSACTION" sql

/-- Runs a statement as it stands. -/
def run (engine : Nat) (sql : String) : Run Event (Option (Result τ)) := do
  e.call (.statement engine sql) (if isSetup sql then .setReadOnly else .execute)
  return if isSetup sql then none else some ⟨e.rows, 0⟩

/-- The next rows of a result, at most as many as asked for. -/
def fetch (engine : Nat) (size : Int) (result : Result τ) :
    Run Event (List τ × Result τ) := do
  Run.event (.fetch engine size)
  if e.failingBatch = some result.batches then throw (.failed .fetchBatch)
  Run.call e.outage .fetchBatch
  return (result.rest.take size.toNat, ⟨result.rest.drop size.toNat, result.batches + 1⟩)

def closeResult (engine : Nat) : Run Event Unit := e.call (.closeResult engine) .closeResult

def close (engine : Nat) : Run Event Unit := e.call (.close engine) .close

/-- The library that makes such engines. Neither making one nor disposing of it fails here. -/
def library : Library (Result τ) Event τ where
  create := create
  connect := e.connect
  schemas engine sql := do
    e.query engine sql none
    return e.schemas
  tables engine sql parameters := do
    e.query engine sql (some parameters)
    return e.tables
  columns engine sql parameters := do
    e.query engine sql (some parameters)
    return e.columns
  run := e.run
  fetch := e.fetch
  closeResult engine _ := e.closeResult engine
  close := e.close
  dispose := dispose

def client : Client Connection (Rows τ) Event τ := e.library.client

end Engine
end Pushdown.Oracle
