import Pushdown.Connector
import Pushdown.Proofs.Ledger

/-!
What each operation of a connector does with the connections that it opens, whichever of the calls
on the way fail.
-/
namespace Pushdown

variable {κ ρ ε τ α : Type} {L : Ledger κ ε}

/-- A ledger is right about a client. A connection is booked under a new number when it opens, and
as closed by each call that closes it, even one that fails. A call that fails to connect leaves
nothing open, and no other call opens or closes anything. -/
structure Client.Keeps (c : Client κ ρ ε τ) (L : Ledger κ ε) : Prop extends L.Sound where
  connect_ok : ∀ {url properties j k j'}, (c.connect url properties).outcome j = (.ok k, j') →
    L.Moves [L.number k] [] j j'
  connect_error : ∀ {url properties j e j'},
    (c.connect url properties).outcome j = (.error e, j') →
      ∃ os, os.length ≤ 1 ∧ L.Moves os os j j'
  metadata : ∀ k, L.Still (c.metadata k)
  storesUpper : ∀ k, L.Still (c.storesUpper k)
  schemas : ∀ k, L.Still (c.schemas k)
  tables : ∀ k catalog schema table kinds, L.Still (c.tables k catalog schema table kinds)
  columns : ∀ k catalog schema table, L.Still (c.columns k catalog schema table)
  setReadOnly : ∀ k value, L.Still (c.setReadOnly k value)
  execute : ∀ k sql, L.Still (c.execute k sql)
  next : ∀ rows, L.Still (c.next rows)
  stop : ∀ rows, L.Still (c.stop rows)
  close : ∀ k j, L.Moves [] [L.number k] j ((c.close k).outcome j).2

namespace Client.Keeps

variable {c : Client κ ρ ε τ} (h : c.Keeps L)
include h

theorem connect_passes (url : String) (properties : Properties) :
    L.Passes [] (c.connect url properties) fun k => [L.number k] where
  ok := by
    intro j k j' hc
    exact ⟨_, _, h.connect_ok hc, by simp⟩
  error := by
    intro j e j' hc
    obtain ⟨os, -, hm⟩ := h.connect_error hc
    exact hm.trades

theorem close_passes (k : κ) : L.Passes [L.number k] (c.close k) fun _ => [] :=
  .of_trades fun j => ⟨[], [L.number k], h.close k j, by simp⟩

/-- A connection that is closed in any case. -/
theorem ensuring_passes {r : Run ε α} (hr : L.Still r) (k : κ) :
    L.Passes [L.number k] (Run.ensuring r (c.close k)) fun _ => [] := by
  apply Ledger.Passes.of_trades
  intro j
  rw [Run.journal_ensuring]
  exact ⟨[], [L.number k], (hr j).trans (h.close k _), by simp⟩

/-- A connection that is closed if the next step with it fails. -/
theorem onFailure_passes {r : Run ε α} (hr : L.Still r) (k : κ) :
    L.Passes [L.number k] (Run.onFailure r (c.close k)) fun _ => [L.number k] where
  ok := by
    intro j a j' ho
    rw [Run.onFailure_eq_ok] at ho
    exact ⟨[], [], hr.moves ho, by simp⟩
  error := by
    intro j e j' ho
    obtain ⟨e₁, j₁, hb, rfl⟩ := Run.exists_of_onFailure_eq_error ho
    exact ⟨[], [L.number k], (hr.moves hb).trans (h.close k j₁), by simp⟩

end Client.Keeps

namespace Discovery

variable {d : Discovery κ ρ ε τ} (h : d.client.Keeps L)
include h

theorem withConnection_settles (synonyms : Bool) {body : κ → Run ε α}
    (hb : ∀ k, L.Still (body k)) : L.Settles (d.withConnection synonyms body) := by
  intro j
  unfold withConnection
  rw [Run.outcome_bind]
  rcases hc : (d.client.connect d.url _).outcome j with ⟨e | k, j₁⟩
  · exact h.connect_error hc
  · refine ⟨[L.number k], by simp, ?_⟩
    have hbody := (h.connect_ok hc).trans (hb k j₁)
    simp only
    rw [Run.journal_ensuring]
    simpa using hbody.trans (h.close k _)

theorem listSchemas_settles : L.Settles d.listSchemas := by
  unfold listSchemas
  apply (withConnection_settles h false ?_).bind
  · intro schemas
    apply (h.note _).bind
    intro _
    exact .pure schemas
  · intro k
    apply (h.metadata k).bind
    intro _
    apply (h.schemas k).bind
    intro names
    exact .pure _

theorem listTables_settles (schema : Option String) : L.Settles (d.listTables schema) := by
  unfold listTables
  split
  · exact (Ledger.Still.pure _).settles
  apply (withConnection_settles h false ?_).bind
  · intro tables
    apply (h.note _).bind
    intro _
    exact .pure tables
  · intro k
    have hread : ∀ lookup, L.Still (do
        let rows ← d.client.tables k none lookup none tableKinds
        Run.ofExcept Error.invalid ((rows.filterMap d.logicalName?).mapM id)) := by
      intro lookup
      apply (h.tables k none lookup none tableKinds).bind
      intro rows
      exact .ofExcept _ _
    apply (h.metadata k).bind
    intro _
    cases schema with
    | none => exact .bind (.pure none) hread
    | some s =>
      apply (h.storesUpper k).bind
      intro upper
      exact .bind (.pure _) hread

theorem resolveTable_settles (name : TableName) : L.Settles (d.resolveTable name) := by
  unfold resolveTable
  split
  · exact (Ledger.Still.pure _).settles
  apply (withConnection_settles h false ?_).bind
  · intro handles
    split
    · apply (h.note _).bind
      intro _
      exact .pure none
    · exact .pure _
    · exact .throw _
  · intro k
    apply (h.metadata k).bind
    intro _
    apply (h.storesUpper k).bind
    intro upper
    apply (h.tables k _ _ _ _).bind
    intro rows
    exact .pure _

theorem supportedColumns_still (table : TableHandle) (rows : List ColumnRow) :
    L.Still (supportedColumns (ε := ε) table rows) := by
  induction rows with
  | nil => exact .pure []
  | cons row rest ih =>
    unfold supportedColumns
    split
    · apply ih.bind
      intro columns
      exact .pure _
    · apply (h.note _).bind
      intro _
      exact ih

theorem listColumns_settles (table : TableHandle) : L.Settles (d.listColumns table) := by
  unfold listColumns
  apply (withConnection_settles h true ?_).bind
  · rintro ⟨found, columns⟩
    have hsome : L.Still (do
        if columns.isEmpty then throw (.noSupportedColumns table.name)
        return columns : Run ε (List Column)) := by
      split
      · exact .bind (.throw _) fun _ => .pure columns
      · exact .pure columns
    dsimp only
    split
    · exact .bind (.throw _) fun _ => hsome
    · exact hsome
  · intro k
    have hread : ∀ names : Option String × String, L.Still (do
        let rows ← d.client.columns k table.catalog names.1 (some names.2)
        let columns ← supportedColumns table rows
        return (!rows.isEmpty, columns)) := by
      intro names
      apply (h.columns k table.catalog names.1 (some names.2)).bind
      intro rows
      apply (supportedColumns_still h table rows).bind
      intro columns
      exact .pure _
    apply (h.metadata k).bind
    intro _
    cases table.schema with
    | none => exact .bind (.pure _) hread
    | some s =>
      apply (h.storesUpper k).bind
      intro upper
      exact .bind (.pure _) hread

end Discovery

/-- The connection that a cursor holds, if its scan has begun and not ended. -/
def Cursor.held (L : Ledger κ ε) : Cursor κ ρ → List Nat
  | .scanning connection _ => [L.number connection]
  | .statement _ | .planned .. | .finished => []

/-- What is held after the next row of a cursor was asked for. -/
def Cursor.heldBy (L : Ledger κ ε) : Option (τ × Cursor κ ρ) → List Nat
  | some (_, cursor) => cursor.held L
  | none => []

namespace Connector

variable {c : Connector κ ρ ε τ} (h : c.client.Keeps L)
include h

theorem buildSql_still (table : TableHandle) (columns : List Column) (predicates : Predicates) :
    L.Still (c.buildSql table columns predicates) := by
  apply Ledger.Still.bind (.ofExcept _ _)
  intro sql
  apply (h.note _).bind
  intro _
  exact .pure sql

/-- The connection that is handed over has just been made read-only. -/
theorem openConnection_ok {endpoint : Endpoint} {j j' : Journal ε} {k : κ}
    (ho : (c.openConnection endpoint).outcome j = (.ok k, j')) :
    L.Moves [L.number k] [] j j' ∧
      ∃ properties j₁, (c.client.connect endpoint.url properties).outcome j = (.ok k, j₁) ∧
        (c.client.setReadOnly k true).outcome j₁ = (.ok (), j') := by
  obtain ⟨k₁, j₁, hc, ho⟩ := Run.bind_eq_ok.mp ho
  obtain ⟨_, j₂, hr, hk⟩ := Run.bind_eq_ok.mp ho
  cases hk
  rw [Run.onFailure_eq_ok] at hr
  refine ⟨?_, _, j₁, hc, hr⟩
  exact (h.connect_ok hc).trans ((h.setReadOnly k true).moves hr)

theorem openConnection_error {endpoint : Endpoint} {j j' : Journal ε} {e : Error}
    (ho : (c.openConnection endpoint).outcome j = (.error e, j')) :
    ∃ os, os.length ≤ 1 ∧ L.Moves os os j j' := by
  rcases Run.bind_eq_error.mp ho with hc | ⟨k, j₁, hc, ho⟩
  · exact h.connect_error hc
  rcases Run.bind_eq_error.mp ho with hr | ⟨_, _, -, hp⟩
  · obtain ⟨e₁, j₂, hs, rfl⟩ := Run.exists_of_onFailure_eq_error hr
    have hj := (h.setReadOnly k true).moves hs
    exact ⟨[L.number k], by simp, ((h.connect_ok hc).trans hj).trans (h.close k j₂)⟩
  · cases hp

theorem openConnection_passes (endpoint : Endpoint) :
    L.Passes [] (c.openConnection endpoint) fun k => [L.number k] where
  ok := by
    intro j k j' ho
    exact ⟨_, _, (openConnection_ok h ho).1, by simp⟩
  error := by
    intro j e j' ho
    obtain ⟨os, -, hm⟩ := openConnection_error h ho
    exact hm.trades

theorem scanNext_passes (k : κ) (rows : ρ) :
    L.Passes [L.number k] (c.scanNext k rows) (Cursor.heldBy L) := by
  refine (h.onFailure_passes (h.next rows) k).bind ?_
  rintro (_ | ⟨row, rows⟩)
  · exact (h.close_passes k).bind fun _ => .pure none (Cursor.heldBy L)
  · exact .pure (some (row, .scanning k rows)) (Cursor.heldBy L)

theorem next_passes (cursor : Cursor κ ρ) :
    L.Passes (cursor.held L) (c.next cursor) (Cursor.heldBy L) := by
  cases cursor with
  | statement rows =>
    refine (h.next rows).settles.passes.bind ?_
    rintro (_ | ⟨row, rows⟩)
    · exact .pure none (Cursor.heldBy L)
    · exact .pure (some (row, .statement rows)) (Cursor.heldBy L)
  | planned split columns =>
    apply (buildSql_still h split.table columns split.predicates).settles.passes.bind
    intro sql
    apply (openConnection_passes h split.endpoint).bind
    intro k
    apply (h.onFailure_passes (h.execute k sql) k).bind
    intro rows
    exact scanNext_passes h k rows
  | scanning k rows => exact scanNext_passes h k rows
  | finished => exact .pure none (Cursor.heldBy L)

theorem stop_passes (cursor : Cursor κ ρ) :
    L.Passes (cursor.held L) (c.stop cursor) fun _ => [] := by
  cases cursor with
  | statement rows => exact (h.stop rows).settles.passes
  | planned split columns => exact .pure () fun _ => []
  | scanning k rows => exact h.ensuring_passes (h.stop rows) k
  | finished => exact .pure () fun _ => []

end Connector
end Pushdown
