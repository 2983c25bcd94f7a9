import Pushdown.Connector
import Pushdown.Proofs.Discovery

/-!
The schemas that a connector keeps to itself: those of its policy and those that the configuration
adds to it. None of them is shown on any of the ways in which a schema can be learnt of.
-/
namespace Pushdown

variable {κ ρ ε τ : Type}

/-- The schema is none of the names, however these are spelled. -/
def Apart (names : List String) (schema : String) : Prop :=
  ∀ name ∈ names, Text.upper schema ≠ Text.upper name

theorem NamePolicy.apart_of_visible {names extra : List String} {schema : String}
    (h : ((ofNames names).extend extra).isSystem schema = false) :
    Apart (names ++ extra) schema := by
  intro name hname hsame
  have hsystem := isSystem_extend.mpr ⟨name, hname, hsame.symm⟩
  rw [h] at hsystem
  cases hsystem

namespace Discovery

variable {d : Discovery κ ρ ε τ}

/-- The schema of a resolved table is to be seen: it is the one that was asked for, which has the
upper form of the one that was looked at. -/
theorem visible_of_resolveTable (he : d.client.Exact) {name : TableName} {table : TableHandle}
    {j j' : Journal ε} (h : (d.resolveTable name).outcome j = (.ok (some table), j')) :
    ∃ row, d.client.ReportsTable row ∧ table.schema = row.schema ∧
      ∃ schema, row.schema = some schema ∧ d.policy.isSystem schema = false := by
  obtain ⟨hv, -⟩ := resolveTable_eq_ok h
  obtain ⟨k, j₁, upper, j₂, row, -, hr, rfl, hs, -⟩ := exists_reported_of_resolveTable he h
  refine ⟨row, hr, rfl, _, hs, ?_⟩
  rwa [NamePolicy.isSystem_lookupSchema]

end Discovery

namespace Connector

/-- No hidden schema is listed, is that of a listed table or is that of a resolved one. -/
theorem hides_schemas {client : Client κ ρ ε τ} (he : client.Exact) (config : Config)
    (mapper : TypeMapper) (dialect : Dialect) (names : List String) :
    let d := (make config client mapper dialect (.ofNames names)).discovery
    let hidden := names ++ config.excludedSchemas
    (∀ {j found j'}, d.listSchemas.outcome j = (.ok found, j') → ∀ name ∈ found,
        ∃ schema, client.ReportsSchema schema ∧ Apart hidden schema ∧ name = Text.lower schema) ∧
      (∀ {argument j found j'}, (d.listTables argument).outcome j = (.ok found, j') →
        ∀ name ∈ found, ∃ row, client.ReportsTable row ∧ ∃ schema, row.schema = some schema ∧
          Apart hidden schema ∧ name.schema = Text.lower schema ∧
          name.table = Text.lower row.table) ∧
      ∀ {name j table j'}, (d.resolveTable name).outcome j = (.ok (some table), j') →
        ∃ row, client.ReportsTable row ∧ table.schema = row.schema ∧
          ∃ schema, row.schema = some schema ∧ Apart hidden schema := by
  intro d hidden
  refine ⟨?_, ?_, ?_⟩
  · intro j found j' h name hname
    obtain ⟨schema, hr, hv, hn⟩ := Discovery.reports_of_mem_listSchemas h hname
    exact ⟨schema, hr, NamePolicy.apart_of_visible hv, hn⟩
  · intro argument j found j' h name hname
    obtain ⟨row, hr, schema, hs, hv, hn⟩ := Discovery.shows_of_mem_listTables h hname
    exact ⟨row, hr, schema, hs, NamePolicy.apart_of_visible hv, hn⟩
  · intro name j table j' h
    obtain ⟨row, hr, hts, schema, hs, hv⟩ := Discovery.visible_of_resolveTable (d := d) he h
    exact ⟨row, hr, hts, schema, hs, NamePolicy.apart_of_visible hv⟩

/-- Schemas of the policy and of the configuration, each spelled in another way. -/
theorem hides_schemas_spelled :
    let rows : List TableRow := [⟨none, some "HR", "JOBS", "TABLE"⟩,
      ⟨none, some "Maß", "LOG", "TABLE"⟩, ⟨none, some "SYS", "DUAL", "VIEW"⟩]
    let db : Database Nat := ⟨["HR", "SYS", "Maß"], rows, [], true, [], .never, none⟩
    let config : Config :=
      ⟨"c", "oracle", "u", none, none, "\"", 10, ["MASS"], by decide, by decide⟩
    let d := (make config db.client .generic .generic (.ofNames ["sys"])).discovery
    let name : TableName := ⟨"hr", "jobs", by decide, by decide⟩
    let table : TableHandle := ⟨"c", name, none, some "HR", "JOBS"⟩
    (d.listSchemas.outcome .empty).1 = .ok ["hr"] ∧
      ((d.listTables none).outcome .empty).1 = .ok [name] ∧
      ((d.resolveTable name).outcome .empty).1 = .ok (some table) ∧
      (∃ schema ∈ db.schemas, Apart ["sys", "MASS"] schema ∧ "hr" = Text.lower schema) ∧
      (∃ row ∈ rows, ∃ schema, row.schema = some schema ∧ Apart ["sys", "MASS"] schema ∧
        name.schema = Text.lower schema ∧ name.table = Text.lower row.table) ∧
      ∃ row ∈ rows, table.schema = row.schema ∧
        ∃ schema, row.schema = some schema ∧ Apart ["sys", "MASS"] schema := by
  intro rows db config d name table
  have hschemas : (d.listSchemas.outcome .empty).1 = .ok ["hr"] := by decide +kernel
  have htables : ((d.listTables none).outcome .empty).1 = .ok [name] := by decide +kernel
  have hresolve : ((d.resolveTable name).outcome .empty).1 = .ok (some table) := by decide +kernel
  obtain ⟨hs, ht, hr⟩ := hides_schemas (Database.client_exact db) config .generic .generic ["sys"]
  obtain ⟨schema, hschema, hshown⟩ := hs (Run.outcome_of_fst hschemas) "hr" (by simp)
  obtain ⟨listed, hlisted, hnamed⟩ := ht (Run.outcome_of_fst htables) name (by simp)
  obtain ⟨found, hfound, hof⟩ := hr (Run.outcome_of_fst hresolve)
  exact ⟨hschemas, htables, hresolve, ⟨schema, db.mem_schemas_of_reportsSchema hschema, hshown⟩,
    ⟨listed, db.mem_tables_of_reportsTable hlisted, hnamed⟩,
    ⟨found, db.mem_tables_of_reportsTable hfound, hof⟩⟩

end Connector
end Pushdown
