import Pushdown.Proofs.Discovery

/-!
Names as the engine sees them. A name that was folded for the engine is not changed again, so that a
logical name can be taken apart and made again, and a table is listed in the schema that its own
schema is listed as.
-/
namespace Pushdown

variable {κ ρ ε τ : Type}

/-- A logical name is the one that is made of its own parts. -/
theorem TableName.make_parts {schema table : String} {name : TableName}
    (h : make schema table = .ok name) : make name.schema name.table = .ok name := by
  obtain ⟨hschema, htable⟩ := make_eq_ok.mp h
  refine make_eq_ok.mpr ⟨?_, ?_⟩
  · rw [hschema, Text.lower_lower]
  · rw [htable, Text.lower_lower]

namespace NamePolicy

variable {p : NamePolicy} {schema text : String}

/-- What a schema is listed as, if it is to be seen. -/
def shownSchema? (p : NamePolicy) (schema : String) : Option String :=
  if p.isSystem schema then none else some (display schema)

theorem shownSchema?_eq_some : p.shownSchema? schema = some text ↔
    p.isSystem schema = false ∧ display schema = text := by
  unfold shownSchema?
  split <;> simp [*]

/-- The name of a listed table tells what its schema is listed as, though it was folded twice. -/
theorem Shows.shownSchema? {row : TableRow} {name : TableName} (h : p.Shows row name) :
    name.table = display row.table ∧
      ∃ schema, row.schema = some schema ∧ p.shownSchema? schema = some name.schema := by
  obtain ⟨schema, hs, hv, hname, htable⟩ := h
  exact ⟨htable, schema, hs, shownSchema?_eq_some.mpr ⟨hv, hname.symm⟩⟩

end NamePolicy

namespace Discovery

variable {d : Discovery κ ρ ε τ}

/-- The schemas are listed as what the reported ones are shown as, and in no other way. -/
theorem mem_listSchemas {j j' : Journal ε} {listed : List String}
    (h : d.listSchemas.outcome j = (.ok listed, j')) :
    ∃ k j₁ reported j₂, (d.client.schemas k).outcome j₁ = (.ok reported, j₂) ∧
      ∀ text, text ∈ listed ↔ ∃ schema ∈ reported, d.policy.shownSchema? schema = some text := by
  obtain ⟨k, j₁, j₂, reported, hreported, rfl⟩ := listSchemas_eq_ok h
  refine ⟨k, j₁, reported, j₂, hreported, fun text => ?_⟩
  simp only [NamePolicy.shownSchema?_eq_some, Text.mem_sortedNames, List.mem_map, List.mem_filter,
    Bool.not_eq_true', and_assoc, NamePolicy.display]

/-- Folding a name for the engine twice is folding it once. So every logical name is made again of
its parts, and a listed table has the text for its schema that the reported schema is listed as. -/
theorem display_stable (d : Discovery κ ρ ε τ) :
    (∀ name, NamePolicy.display (NamePolicy.display name) = NamePolicy.display name) ∧
      (∀ {schema table name}, TableName.make schema table = .ok name →
        TableName.make name.schema name.table = .ok name) ∧
      (∀ {j listed j'}, d.listSchemas.outcome j = (.ok listed, j') →
        ∃ k j₁ reported j₂, (d.client.schemas k).outcome j₁ = (.ok reported, j₂) ∧
          ∀ text, text ∈ listed ↔
            ∃ schema ∈ reported, d.policy.shownSchema? schema = some text) ∧
      ∀ {argument j names j'}, (d.listTables argument).outcome j = (.ok names, j') →
        ∀ name ∈ names, ∃ row, d.client.ReportsTable row ∧
          name.table = NamePolicy.display row.table ∧
          ∃ schema, row.schema = some schema ∧ d.policy.shownSchema? schema = some name.schema := by
  refine ⟨Text.lower_lower, TableName.make_parts, mem_listSchemas, ?_⟩
  intro argument j names j' h name hname
  obtain ⟨row, hreports, hshows⟩ := shows_of_mem_listTables h hname
  exact ⟨row, hreports, hshows.shownSchema?⟩

/-- A capital sigma at the end of a name and inside, and a capital that folds to two characters. -/
theorem display_stable_sigma :
    let rows : List TableRow := [⟨none, some "ΟΔΟΣ", "ΣΑΣ", "TABLE"⟩,
      ⟨none, some "SYS", "DUAL", "VIEW"⟩]
    let db : Database Nat := ⟨["SYS", "ΟΔΟΣ", "İZ"], rows, [], true, [], .never, none⟩
    let d : Discovery Nat (Database.Reading Nat) Database.Event Nat :=
      ⟨"c", db.client, "u", [], .ofNames ["sys"]⟩
    let listed : List String := ["i\u0307z", "οδος"]
    let name : TableName := ⟨"οδος", "σας", by decide, by decide⟩
    (d.listSchemas.outcome .empty).1 = .ok listed ∧
      ((d.listTables none).outcome .empty).1 = .ok [name] ∧
      NamePolicy.display (NamePolicy.display "ΟΔΟΣ") = NamePolicy.display "ΟΔΟΣ" ∧
      TableName.make "ΟΔΟΣ" "ΣΑΣ" = .ok name ∧ TableName.make "οδος" "σας" = .ok name ∧
      (∀ text, text ∈ listed ↔
        ∃ schema ∈ db.schemas, d.policy.shownSchema? schema = some text) ∧
      ∃ row ∈ rows, name.table = NamePolicy.display row.table ∧
        ∃ schema, row.schema = some schema ∧ d.policy.shownSchema? schema = some "οδος" := by
  intro rows db d listed name
  have hschemas : (d.listSchemas.outcome .empty).1 = .ok listed := by decide +kernel
  have htables : ((d.listTables none).outcome .empty).1 = .ok [name] := by decide +kernel
  have hmake : TableName.make "ΟΔΟΣ" "ΣΑΣ" = .ok name := by decide +kernel
  obtain ⟨hdisplay, hparts, hshown, hlisted⟩ := display_stable d
  obtain ⟨k, j₁, reported, j₂, hreported, hmem⟩ := hshown (Run.outcome_of_fst hschemas)
  have hserves : db.client.ServesSchemas db.schemas := Database.client_servesSchemas rfl
  obtain rfl : reported = db.schemas := Except.ok.inj ((hserves k).eq hreported)
  obtain ⟨row, hrow, hnamed⟩ := hlisted (Run.outcome_of_fst htables) name (by simp)
  exact ⟨hschemas, htables, hdisplay "ΟΔΟΣ", hmake, hparts hmake, hmem, row,
    db.mem_tables_of_reportsTable hrow, hnamed⟩

end Discovery
end Pushdown
