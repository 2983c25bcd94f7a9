import Pushdown.Config
import Pushdown.Run

/-!
What the connector needs of a database client: connections, their metadata, and statements whose
rows are read one at a time.
-/
namespace Pushdown

/-- Object kinds that a table name may stand for. -/
def tableKinds : List String := ["TABLE", "VIEW", "SYNONYM"]

/-- A client with connections `κ`, unread results `ρ`, events `ε` and rows `τ`. Names in metadata
calls are exact, and a missing one matches any. A result that has given its last row, or failed,
has cleaned up after itself; `stop` cleans up a result that is left before its end. -/
structure Client (κ ρ ε τ : Type) where
  connect : String → Properties → Run ε κ
  metadata : κ → Run ε Unit
  storesUpper : κ → Run ε Bool
  schemas : κ → Run ε (List String)
  tables : κ → Option String → Option String → Option String → List String →
    Run ε (List TableRow)
  columns : κ → Option String → Option String → Option String → Run ε (List ColumnRow)
  setReadOnly : κ → Bool → Run ε Unit
  execute : κ → String → Run ε ρ
  next : ρ → Run ε (Option (τ × ρ))
  stop : ρ → Run ε Unit
  close : κ → Run ε Unit

end Pushdown
