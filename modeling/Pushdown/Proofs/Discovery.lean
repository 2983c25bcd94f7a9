import Pushdown.Discovery
import Pushdown.Proofs.Except
import Pushdown.Proofs.Metadata
import Pushdown.Proofs.NamePolicy

/-!
What each operation of discovery answers, said from the metadata that it read.
-/
namespace Pushdown

variable {κ ρ ε τ α : Type}

/-- A logical name is made of any parts that fold to it. -/
theorem TableName.make_eq_ok {schema table : String} {name : TableName} :
    make schema table = .ok name ↔
      name.schema = Text.lower schema ∧ name.table = Text.lower table := by
  constructor
  · unfold make
    split_ifs
    all_goals
      intro h
      cases h
    exact ⟨rfl, rfl⟩
  · obtain ⟨_, _, hs, ht⟩ := name
    rintro ⟨rfl, rfl⟩
    have hschema : schema ≠ "" := by
      rintro rfl
      exact hs rfl
    have htable : table ≠ "" := by
      rintro rfl
      exact ht rfl
    simp [make, hschema, htable]

theorem TableName.checked_eq_ok {schema table : String} {name : TableName} :
    TableName.checked schema table = .ok name ↔
      name.schema = Text.lower schema ∧ name.table = Text.lower table := by
  rw [← make_eq_ok, checked]
  cases make schema table <;> simp

/-- The name that a table is listed under, if its schema is to be seen. -/
def NamePolicy.Shows (p : NamePolicy) (row : TableRow) (name : TableName) : Prop :=
  ∃ schema, row.schema = some schema ∧ p.isSystem schema = false ∧
    name.schema = Text.lower schema ∧ name.table = Text.lower row.table

theorem NamePolicy.Shows.of_schema {p : NamePolicy} {row : TableRow} {name : TableName}
    {schema : String} (h : p.Shows row name) (hs : row.schema = some schema) :
    p.isSystem schema = false ∧ name.schema = Text.lower schema ∧
      name.table = Text.lower row.table := by
  obtain ⟨schema', hs', hshown⟩ := h
  rwa [Option.some.inj (hs.symm.trans hs')]

theorem NamePolicy.exists_shows {p : NamePolicy} {row : TableRow} {schema : String}
    (hs : row.schema = some schema) (hv : p.isSystem schema = false) (hne : schema ≠ "")
    (htable : row.table ≠ "") : ∃ name, p.Shows row name :=
  ⟨⟨Text.lower schema, Text.lower row.table, Text.lower_ne_empty hne, Text.lower_ne_empty htable⟩,
    schema, hs, hv, rfl, rfl⟩

namespace Discovery

variable {d : Discovery κ ρ ε τ} {j j' : Journal ε}

theorem exists_of_withConnection {synonyms : Bool} {body : κ → Run ε α} {a : α}
    (h : (d.withConnection synonyms body).outcome j = (.ok a, j')) :
    ∃ k j₁ j₂, (body k).outcome j₁ = (.ok a, j₂) := by
  obtain ⟨k, j₁, -, h⟩ := Run.bind_eq_ok.mp h
  obtain ⟨j₂, h⟩ := Run.exists_of_ensuring_eq_ok h
  exact ⟨k, j₁, j₂, h⟩

theorem withConnection_gives {upper : Bool} {rows : List TableRow}
    (hc : d.client.Serves upper rows) {synonyms : Bool} {body : κ → Run ε α}
    {result : Except Error α} (hb : ∀ k, (body k).Gives result) :
    (d.withConnection synonyms body).Gives result := by
  intro j
  unfold withConnection
  rw [Run.outcome_bind]
  obtain ⟨k, j₁, hk⟩ := hc.connect d.url
    (d.properties.put Properties.synonymsKey (if synonyms then "true" else "false")) j
  simp only [hk]
  exact (hb k).ensuring (hc.close k) j₁

theorem listSchemas_eq_ok {names : List String} (h : d.listSchemas.outcome j = (.ok names, j')) :
    ∃ k j₁ j₂ reported, (d.client.schemas k).outcome j₁ = (.ok reported, j₂) ∧
      names = Text.sortedNames ((reported.filter (!d.policy.isSystem ·)).map Text.lower) := by
  obtain ⟨found, j₁, hf, h⟩ := Run.bind_eq_ok.mp h
  obtain ⟨_, j₂, -, h⟩ := Run.bind_eq_ok.mp h
  cases h
  obtain ⟨k, j₃, j₄, hf⟩ := exists_of_withConnection hf
  obtain ⟨_, j₅, -, hf⟩ := Run.bind_eq_ok.mp hf
  obtain ⟨reported, j₆, hr, hf⟩ := Run.bind_eq_ok.mp hf
  cases hf
  exact ⟨k, j₅, _, reported, hr, rfl⟩

/-- Every listed name is that of a reported schema that is to be seen. -/
theorem reports_of_mem_listSchemas {names : List String}
    (h : d.listSchemas.outcome j = (.ok names, j')) {name : String} (hname : name ∈ names) :
    ∃ schema, d.client.ReportsSchema schema ∧ d.policy.isSystem schema = false ∧
      name = Text.lower schema := by
  obtain ⟨k, j₁, j₂, reported, hr, rfl⟩ := listSchemas_eq_ok h
  rw [Text.mem_sortedNames, List.mem_map] at hname
  obtain ⟨schema, hschema, rfl⟩ := hname
  obtain ⟨hmem, hv⟩ := List.mem_filter.mp hschema
  exact ⟨schema, ⟨k, j₁, reported, j₂, hr, hmem⟩, by simpa using hv, rfl⟩

theorem logicalName?_eq_ok {row : TableRow} {name : TableName} :
    d.logicalName? row = some (.ok name) ↔ d.policy.Shows row name := by
  unfold logicalName? NamePolicy.Shows
  cases row.schema with
  | none => simp
  | some schema =>
    cases hs : d.policy.isSystem schema <;>
      simp [hs, TableName.checked_eq_ok, NamePolicy.display]

/-- The names of a list of tables are those that its tables are shown under. -/
theorem mem_logicalNames {rows : List TableRow} {names : List TableName}
    (h : (rows.filterMap d.logicalName?).mapM id = .ok names) {name : TableName} :
    name ∈ names ↔ ∃ row ∈ rows, d.policy.Shows row name := by
  have hname : name ∈ names ↔ .ok name ∈ rows.filterMap d.logicalName? := by
    rw [mapM_id_eq_ok.mp h]
    simp
  simp only [hname, List.mem_filterMap, logicalName?_eq_ok]

/-- Every listed name is that of a reported table whose schema is to be seen. -/
theorem shows_of_mem_listTables {schema : Option String} {names : List TableName}
    (h : (d.listTables schema).outcome j = (.ok names, j')) {name : TableName}
    (hname : name ∈ names) :
    ∃ row, d.client.ReportsTable row ∧ d.policy.Shows row name := by
  unfold listTables at h
  split at h
  · cases h
    cases hname
  obtain ⟨found, j₁, hf, h⟩ := Run.bind_eq_ok.mp h
  obtain ⟨_, j₂, -, h⟩ := Run.bind_eq_ok.mp h
  cases h
  obtain ⟨k, j₃, j₄, hf⟩ := exists_of_withConnection hf
  obtain ⟨_, j₅, -, hf⟩ := Run.bind_eq_ok.mp hf
  -- The tables are read in the same way with and without an argument.
  have hread : ∀ {lookup j₆}, (do
        let rows ← d.client.tables k none lookup none tableKinds
        Run.ofExcept Error.invalid ((rows.filterMap d.logicalName?).mapM id)
        : Run ε (List TableName)).outcome j₆ = (.ok names, j₄) →
      ∃ row, d.client.ReportsTable row ∧ d.policy.Shows row name := by
    intro lookup j₆ hr
    obtain ⟨rows, j₇, hr, hn⟩ := Run.bind_eq_ok.mp hr
    obtain ⟨row, hrow, hshows⟩ := (mem_logicalNames (Run.ofExcept_eq_ok hn)).mp hname
    exact ⟨row, ⟨k, none, lookup, none, tableKinds, j₆, rows, j₇, hr, hrow⟩, hshows⟩
  cases schema with
  | none => exact hread hf
  | some s =>
    obtain ⟨upper, j₆, -, hf⟩ := Run.bind_eq_ok.mp hf
    exact hread hf

theorem visible_of_logicalName? {row : TableRow} {x : Checked TableName}
    (h : d.logicalName? row = some x) :
    ∃ schema, row.schema = some schema ∧ d.policy.isSystem schema = false := by
  unfold logicalName? at h
  split at h
  · rename_i schema hs
    split at h
    · cases h
    · rename_i hv
      exact ⟨schema, hs, by simpa using hv⟩
  · cases h

/-- Tables can be listed if none of them has an empty name. -/
theorem exists_logicalNames {rows : List TableRow}
    (hrows : ∀ row ∈ rows, row.table ≠ "" ∧ row.schema ≠ some "") :
    ∃ names, (rows.filterMap d.logicalName?).mapM id = .ok names := by
  have hname : ∀ x ∈ rows.filterMap d.logicalName?, ∃ name, id x = .ok name := by
    intro x hx
    obtain ⟨row, hrow, hx⟩ := List.mem_filterMap.mp hx
    obtain ⟨schema, hs, hv⟩ := visible_of_logicalName? hx
    obtain ⟨htable, hschema⟩ := hrows row hrow
    obtain ⟨name, hshows⟩ := NamePolicy.exists_shows hs hv (by simpa [hs] using hschema) htable
    rw [logicalName?_eq_ok.mpr hshows] at hx
    exact ⟨name, (Option.some.inj hx).symm⟩
  obtain ⟨names, h⟩ := exists_forall₂ hname
  exact ⟨names, mapM_eq_ok.mpr h⟩

theorem listSchemas_gives {upper : Bool} {rows : List TableRow} {schemas : List String}
    (hc : d.client.Serves upper rows) (hs : d.client.ServesSchemas schemas) :
    d.listSchemas.Gives
      (.ok (Text.sortedNames ((schemas.filter (!d.policy.isSystem ·)).map Text.lower))) := by
  have hbody : ∀ k, (do
        d.client.metadata k
        let names ← d.client.schemas k
        return Text.sortedNames ((names.filter (!d.policy.isSystem ·)).map NamePolicy.display)
        : Run ε (List String)).Gives (.ok (Text.sortedNames
          ((schemas.filter (!d.policy.isSystem ·)).map Text.lower))) :=
    fun k => (hc.metadata k).bind ((hs k).bind (.pure _))
  exact (withConnection_gives hc hbody).bind ((Run.Gives.note _).bind (.pure _))

/-- The listed tables are those that the database was asked for, each under its logical name. -/
theorem listTables_gives_of_names {upper : Bool} {rows : List TableRow}
    (hc : d.client.Serves upper rows) {schema : Option String}
    (hv : schema.any d.policy.isSystem = false) {names : List TableName}
    (hnames : ((rows.filter (·.answers (schema.map (d.policy.lookupSchema upper)) none
      tableKinds)).filterMap d.logicalName?).mapM id = .ok names) :
    (d.listTables schema).Gives (.ok names) := by
  have hread : ∀ k, (do
        let rows ← d.client.tables k none (schema.map (d.policy.lookupSchema upper)) none tableKinds
        Run.ofExcept Error.invalid ((rows.filterMap d.logicalName?).mapM id)
        : Run ε (List TableName)).Gives (.ok names) := by
    intro k
    refine (hc.tables k _ none tableKinds).bind ?_
    rw [hnames]
    exact .pure names
  unfold listTables
  rw [if_neg (by simp [hv])]
  refine (withConnection_gives hc fun k => (hc.metadata k).bind ?_).bind
    ((Run.Gives.note _).bind (.pure names))
  cases schema with
  | none => exact hread k
  | some s => exact (hc.storesUpper k).bind (hread k)

theorem listTables_gives {upper : Bool} {rows : List TableRow} (hc : d.client.Serves upper rows)
    (hrows : ∀ row ∈ rows, row.table ≠ "" ∧ row.schema ≠ some "") :
    ∃ names, (d.listTables none).Gives (.ok names) ∧
      ∀ name, name ∈ names ↔ ∃ row ∈ rows, row.kind ∈ tableKinds ∧ d.policy.Shows row name := by
  set reported := rows.filter (·.answers none none tableKinds) with hreported
  have hmem : ∀ row, row ∈ reported ↔ row ∈ rows ∧ row.kind ∈ tableKinds := by
    simp [hreported]
  have hnamed : ∀ row ∈ reported, row.table ≠ "" ∧ row.schema ≠ some "" :=
    fun row hrow => hrows row ((hmem row).mp hrow).1
  obtain ⟨names, hnames⟩ := exists_logicalNames (d := d) hnamed
  refine ⟨names, listTables_gives_of_names hc rfl hnames, ?_⟩
  intro name
  simp only [mem_logicalNames hnames, hmem, and_assoc]

/-- The handle of a table that was found for a logical name. -/
def handle (d : Discovery κ ρ ε τ) (name : TableName) (row : TableRow) : TableHandle :=
  ⟨d.connectorId, name, row.catalog, row.schema, row.table⟩

theorem resolveTable_eq_ok {name : TableName} {table : TableHandle}
    (h : (d.resolveTable name).outcome j = (.ok (some table), j')) :
    d.policy.isSystem name.schema = false ∧ ∃ k j₁ upper j₂ row j₃,
      (d.client.storesUpper k).outcome j₁ = (.ok upper, j₂) ∧
      (d.client.tables k none (some (d.policy.lookupSchema upper name.schema))
        (some (d.policy.lookupTable upper name.schema name.table)) tableKinds).outcome j₂ =
          (.ok [row], j₃) ∧
      table = d.handle name row := by
  unfold resolveTable at h
  split at h
  · cases h
  rename_i hv
  refine ⟨by simpa using hv, ?_⟩
  obtain ⟨handles, j₁, hf, h⟩ := Run.bind_eq_ok.mp h
  obtain ⟨k, j₃, j₄, hf⟩ := exists_of_withConnection hf
  obtain ⟨_, j₅, -, hf⟩ := Run.bind_eq_ok.mp hf
  obtain ⟨upper, j₆, hu, hf⟩ := Run.bind_eq_ok.mp hf
  obtain ⟨rows, j₇, hr, hf⟩ := Run.bind_eq_ok.mp hf
  cases hf
  match rows, h with
  | [row], h =>
    cases h
    exact ⟨k, j₅, upper, j₆, row, _, hu, hr, rfl⟩

/-- A resolved table is a reported one, and its names are those that the logical name was folded
to for the database. -/
theorem exists_reported_of_resolveTable (he : d.client.Exact) {name : TableName}
    {table : TableHandle} (h : (d.resolveTable name).outcome j = (.ok (some table), j')) :
    ∃ k j₁ upper j₂ row, (d.client.storesUpper k).outcome j₁ = (.ok upper, j₂) ∧
      d.client.ReportsTable row ∧ table = d.handle name row ∧
      row.schema = some (d.policy.lookupSchema upper name.schema) ∧
      row.table = d.policy.lookupTable upper name.schema name.table := by
  obtain ⟨-, k, j₁, upper, j₂, row, j₃, hu, ht, rfl⟩ := resolveTable_eq_ok h
  have hrow : row ∈ [row] := List.mem_singleton_self row
  obtain ⟨hs, hn, -⟩ := TableRow.answers_some.mp (he ht row hrow)
  exact ⟨k, j₁, upper, j₂, row, hu, ⟨k, none, _, _, tableKinds, j₂, [row], j₃, ht, hrow⟩, rfl,
    hs, hn⟩

/-- What a logical name stands for, given the tables that were found for it. -/
def resolution (d : Discovery κ ρ ε τ) (name : TableName) :
    List TableRow → Except Error (Option TableHandle)
  | [] => .ok none
  | [row] => .ok (some (d.handle name row))
  | rows => .error (.ambiguousTable name rows.length)

/-- A table that is among those found is what they resolve to, just if it is the only one. -/
theorem resolution_of_mem {name : TableName} {found : List TableRow} {row : TableRow}
    (h : row ∈ found) : d.resolution name found =
      if found.length = 1 then .ok (some (d.handle name row))
      else .error (.ambiguousTable name found.length) := by
  match found, h with
  | [other], h =>
    obtain rfl := List.mem_singleton.mp h
    rfl
  | first :: second :: rest, _ => simp [resolution]

theorem resolveTable_gives {upper : Bool} {rows : List TableRow} (hc : d.client.Serves upper rows)
    {name : TableName} (hv : d.policy.isSystem name.schema = false) :
    (d.resolveTable name).Gives (d.resolution name
      (rows.filter (·.answers (some (d.policy.lookupSchema upper name.schema))
        (some (d.policy.lookupTable upper name.schema name.table)) tableKinds))) := by
  unfold resolveTable
  rw [if_neg (by simp [hv])]
  obtain ⟨found, hfound⟩ : ∃ found, rows.filter
      (·.answers (some (d.policy.lookupSchema upper name.schema))
        (some (d.policy.lookupTable upper name.schema name.table)) tableKinds) = found := ⟨_, rfl⟩
  have hread : ∀ k, (do
        d.client.metadata k
        let upper ← d.client.storesUpper k
        let rows ← d.client.tables k none (some (d.policy.lookupSchema upper name.schema))
          (some (d.policy.lookupTable upper name.schema name.table)) tableKinds
        return rows.map (d.handle name)
        : Run ε (List TableHandle)).Gives (.ok (found.map (d.handle name))) := by
    intro k
    rw [← hfound]
    exact (hc.metadata k).bind ((hc.storesUpper k).bind ((hc.tables k _ _ _).bind (.pure _)))
  rw [hfound]
  refine (withConnection_gives hc hread).bind ?_
  rcases found with _ | ⟨row, _ | ⟨other, rest⟩⟩
  · exact (Run.Gives.note _).bind (.pure none)
  · exact .pure (some (d.handle name row))
  · simpa [resolution] using Run.Gives.throw _

end Discovery
end Pushdown
