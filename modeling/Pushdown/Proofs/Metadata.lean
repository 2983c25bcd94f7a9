import Pushdown.Database
import Pushdown.Proofs.Run

/-!
What discovery takes metadata to answer. A client that takes names as they are gives only tables
with the names that were asked for; one that serves a list of tables gives all of these, in the
order of the list.
-/
namespace Pushdown

/-- Whether a table has the given names and one of the given kinds; a missing name matches any. -/
def TableRow.answers (row : TableRow) (schema table : Option String) (kinds : List String) : Bool :=
  schema.all (row.schema == some ·) && table.all (row.table == ·) && kinds.contains row.kind

namespace TableRow

variable {row : TableRow} {schema table : String} {kinds : List String}

@[simp] theorem answers_none : row.answers none none kinds = true ↔ row.kind ∈ kinds := by
  simp [answers]

@[simp] theorem answers_schema : row.answers (some schema) none kinds = true ↔
    row.schema = some schema ∧ row.kind ∈ kinds := by
  simp [answers]

@[simp] theorem answers_some : row.answers (some schema) (some table) kinds = true ↔
    row.schema = some schema ∧ row.table = table ∧ row.kind ∈ kinds := by
  simp [answers, and_assoc]

end TableRow

namespace Client

variable {κ ρ ε τ : Type}

def ReportsSchema (c : Client κ ρ ε τ) (schema : String) : Prop :=
  ∃ k j names j', (c.schemas k).outcome j = (.ok names, j') ∧ schema ∈ names

def ReportsTable (c : Client κ ρ ε τ) (row : TableRow) : Prop :=
  ∃ k catalog schema table kinds j rows j',
    (c.tables k catalog schema table kinds).outcome j = (.ok rows, j') ∧ row ∈ rows

/-- Names are taken as they are. No table is looked for in a catalog, so that it need not be
known how catalogs are matched. -/
def Exact (c : Client κ ρ ε τ) : Prop :=
  ∀ {k schema table kinds j rows j'},
    (c.tables k none schema table kinds).outcome j = (.ok rows, j') →
      ∀ row ∈ rows, row.answers schema table kinds = true

/-- Every connection that tells how names are stored tells the same. -/
def Stores (c : Client κ ρ ε τ) (upper : Bool) : Prop :=
  ∀ {k j answer j'}, (c.storesUpper k).outcome j = (.ok answer, j') → answer = upper

/-- No call fails, and the tables that are reported are those of a list. -/
structure Serves (c : Client κ ρ ε τ) (upper : Bool) (rows : List TableRow) : Prop where
  connect : ∀ url properties j, ∃ k j', (c.connect url properties).outcome j = (.ok k, j')
  metadata : ∀ k, (c.metadata k).Gives (.ok ())
  storesUpper : ∀ k, (c.storesUpper k).Gives (.ok upper)
  tables : ∀ k schema table kinds,
    (c.tables k none schema table kinds).Gives (.ok (rows.filter (·.answers schema table kinds)))
  close : ∀ k, (c.close k).Gives (.ok ())

/-- The schemas that are reported are those of a list. -/
def ServesSchemas (c : Client κ ρ ε τ) (schemas : List String) : Prop :=
  ∀ k, (c.schemas k).Gives (.ok schemas)

end Client

namespace Database

variable {τ : Type} (db : Database τ)

theorem findTables_eq (schema table : Option String) (kinds : List String) :
    db.findTables schema table kinds = db.tables.filter (·.answers schema table kinds) := by
  cases schema <;> rfl

theorem client_exact : db.client.Exact := by
  intro k schema table kinds j rows j' h row hrow
  obtain ⟨_, j₁, -, h⟩ := Run.bind_eq_ok.mp h
  cases h
  rw [findTables_eq] at hrow
  exact (List.mem_filter.mp hrow).2

theorem client_stores : db.client.Stores db.storesUpper := by
  intro k j answer j' h
  obtain ⟨_, j₁, -, h⟩ := Run.bind_eq_ok.mp h
  cases h
  rfl

theorem mem_schemas_of_reportsSchema {schema : String} (h : db.client.ReportsSchema schema) :
    schema ∈ db.schemas := by
  obtain ⟨k, j, names, j', h, hschema⟩ := h
  obtain ⟨_, j₁, -, h⟩ := Run.bind_eq_ok.mp h
  cases h
  exact hschema

theorem mem_tables_of_reportsTable {row : TableRow} (h : db.client.ReportsTable row) :
    row ∈ db.tables := by
  obtain ⟨k, catalog, schema, table, kinds, j, rows, j', h, hrow⟩ := h
  obtain ⟨_, j₁, -, h⟩ := Run.bind_eq_ok.mp h
  cases h
  exact (List.mem_filter.mp hrow).1

variable {db} (h : db.outage = Outage.never)
include h

theorem runCall_gives (p : Point) : (Run.call db.outage p : Run Event Unit).Gives (.ok ()) := by
  rw [h]
  exact fun _ => rfl

theorem call_gives (e : Event) (p : Point) : (db.call e p).Gives (.ok ()) := by
  have hevent : (Run.event e).Gives (.ok ()) := fun _ => rfl
  exact hevent.bind (runCall_gives h p)

/-- A database on which no call fails serves the tables that it holds. -/
theorem client_serves : db.client.Serves db.storesUpper db.tables where
  connect url properties j := by
    rcases hc : (db.call (.connect url properties) .connect).outcome j with ⟨result, j₁⟩
    obtain rfl := (call_gives h _ _).eq hc
    exact ⟨_, _, Run.bind_eq_ok.mpr ⟨(), j₁, hc, rfl⟩⟩
  metadata _ := runCall_gives h .metadata
  storesUpper _ := (runCall_gives h .storesUpperCase).bind (.pure db.storesUpper)
  tables _ schema table kinds := by
    rw [← findTables_eq]
    exact (call_gives h _ _).bind (.pure _)
  close _ := call_gives h _ _

theorem client_servesSchemas : db.client.ServesSchemas db.schemas :=
  fun _ => (call_gives h .schemas .getSchemas).bind (.pure db.schemas)

end Database
end Pushdown
