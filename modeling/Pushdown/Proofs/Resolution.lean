import Pushdown.Connector
import Pushdown.Proofs.Discovery
import Pushdown.Proofs.Statement

/-!
Which physical table a logical name stands for. Names are folded to lower case for the engine and
to upper case for a database that stores them so; a name that comes back from there finds its own
table, and what was found is neither folded nor looked up differently later.
-/
namespace Pushdown

variable {κ ρ ε τ : Type}

/-- A stored name that the engine can ask for. -/
structure ReadsBack (name : String) : Prop where
  ne_empty : name ≠ ""
  upper : Text.upper name = name
  upper_lower : Text.upper (Text.lower name) = name

theorem ReadsBack.lower_inj {m n : String} (hm : ReadsBack m) (hn : ReadsBack n) :
    Text.lower m = Text.lower n ↔ m = n := by
  refine ⟨fun h => ?_, congrArg Text.lower⟩
  rw [← hm.upper_lower, h, hn.upper_lower]

/-- A logical name that can be told from its upper form. -/
structure TableName.ComesBack (n : TableName) : Prop where
  schema : Text.lower (Text.upper n.schema) = n.schema
  table : Text.lower (Text.upper n.table) = n.table

theorem TableName.ComesBack.eq_of_upper_eq {m n : TableName} (hm : m.ComesBack)
    (hn : n.ComesBack) (hs : Text.upper m.schema = Text.upper n.schema)
    (ht : Text.upper m.table = Text.upper n.table) : m = n := by
  have hschema : m.schema = n.schema := by rw [← hm.schema, hs, hn.schema]
  have htable : m.table = n.table := by rw [← hm.table, ht, hn.table]
  cases m
  cases n
  simp_all

/-- The name that a table is listed under asks the database for the names of the table. -/
theorem NamePolicy.Shows.lookup {p : NamePolicy} {row : TableRow} {name : TableName}
    {schema : String} (h : p.Shows row name) (hs : row.schema = some schema)
    (hschema : ReadsBack schema) (htable : ReadsBack row.table) :
    p.isSystem name.schema = false ∧ p.lookupSchema true name.schema = schema ∧
      p.lookupTable true name.schema name.table = row.table := by
  obtain ⟨hv, hn, ht⟩ := h.of_schema hs
  -- The policy looked at the reported schema; the name has another spelling of it.
  have hsystem : p.isSystem name.schema = false := by
    rw [← hv, hn]
    exact isSystem_congr (hschema.upper_lower.trans hschema.upper.symm)
  rw [lookupSchema_of_visible hsystem, lookupTable_of_visible hsystem, hn, ht]
  exact ⟨hn ▸ hsystem, hschema.upper_lower, htable.upper_lower⟩

namespace Discovery

variable {d : Discovery κ ρ ε τ} {upper : Bool}

theorem resolveTable_of_shows {rows : List TableRow} (hc : d.client.Serves true rows)
    {row : TableRow} (hrow : row ∈ rows) (hkind : row.kind ∈ tableKinds) {schema : String}
    (hs : row.schema = some schema) (hschema : ReadsBack schema) (htable : ReadsBack row.table)
    {name : TableName} (hshows : d.policy.Shows row name) :
    let alike := rows.countP (·.answers (some schema) (some row.table) tableKinds)
    (d.resolveTable name).Gives
      (if alike = 1 then .ok (some (d.handle name row))
      else .error (.ambiguousTable name alike)) := by
  have hfound : row ∈ rows.filter (·.answers (some schema) (some row.table) tableKinds) := by
    simp [hrow, hs, hkind]
  obtain ⟨hsystem, hlookup, htlookup⟩ := hshows.lookup hs hschema htable
  have hresolve := resolveTable_gives hc hsystem
  rwa [hlookup, htlookup, resolution_of_mem hfound, ← List.countP_eq_length_filter] at hresolve

theorem exists_row_of_resolveTable {rows : List TableRow} (hc : d.client.Serves upper rows)
    {name : TableName} {table : TableHandle} {j j' : Journal ε}
    (h : (d.resolveTable name).outcome j = (.ok (some table), j')) :
    ∃ row ∈ rows, row.kind ∈ tableKinds ∧ table = d.handle name row ∧
      ∃ schema, row.schema = some schema ∧ d.policy.isSystem schema = false := by
  obtain ⟨hsystem, k, j₁, answer, j₂, row, j₃, -, ht, rfl⟩ := resolveTable_eq_ok h
  have hfound := Except.ok.inj ((hc.tables k _ _ _).eq ht)
  have hrow : row ∈ [row] := List.mem_singleton_self row
  rw [hfound, List.mem_filter, TableRow.answers_some] at hrow
  obtain ⟨hrow, hs, -, hkind⟩ := hrow
  -- The schema of the table is the one asked for, which is hidden only if the name's is.
  refine ⟨row, hrow, hkind, rfl, _, hs, ?_⟩
  rwa [NamePolicy.isSystem_lookupSchema]

/-- Every table that is to be seen is listed, and its name stands for it if no other table has the
same names. Whatever a name stands for is a listed table. -/
theorem resolves_listed {rows : List TableRow} (hc : d.client.Serves true rows)
    (hrows : ∀ row ∈ rows, (∀ schema, row.schema = some schema → ReadsBack schema) ∧
      ReadsBack row.table) :
    ∃ names, (d.listTables none).Gives (.ok names) ∧
      (∀ row ∈ rows, row.kind ∈ tableKinds → ∀ schema, row.schema = some schema →
        d.policy.isSystem schema = false →
        ∃ name ∈ names, name.schema = Text.lower schema ∧ name.table = Text.lower row.table ∧
          let alike := rows.countP (·.answers (some schema) (some row.table) tableKinds)
          (d.resolveTable name).Gives
            (if alike = 1 then
              .ok (some ⟨d.connectorId, name, row.catalog, row.schema, row.table⟩)
            else .error (.ambiguousTable name alike))) ∧
      ∀ {name j table j'}, (d.resolveTable name).outcome j = (.ok (some table), j') →
        ∃ row ∈ rows, row.kind ∈ tableKinds ∧ table.catalog = row.catalog ∧
          table.schema = row.schema ∧ table.table = row.table ∧
          ∃ shown ∈ names, d.policy.Shows row shown := by
  have hne : ∀ row ∈ rows, row.table ≠ "" ∧ row.schema ≠ some "" := by
    intro row hrow
    obtain ⟨hschema, htable⟩ := hrows row hrow
    exact ⟨htable.ne_empty, fun hempty => (hschema "" hempty).ne_empty rfl⟩
  obtain ⟨names, hlist, hmem⟩ := listTables_gives (d := d) hc hne
  have hlisted : ∀ row ∈ rows, row.kind ∈ tableKinds → ∀ schema, row.schema = some schema →
      d.policy.isSystem schema = false → ∃ name ∈ names, d.policy.Shows row name := by
    intro row hrow hkind schema hs hv
    obtain ⟨hschema, htable⟩ := hrows row hrow
    obtain ⟨name, hshows⟩ :=
      NamePolicy.exists_shows hs hv (hschema schema hs).ne_empty htable.ne_empty
    exact ⟨name, (hmem name).mpr ⟨row, hrow, hkind, hshows⟩, hshows⟩
  refine ⟨names, hlist, ?_, ?_⟩
  · intro row hrow hkind schema hs hv
    obtain ⟨hschema, htable⟩ := hrows row hrow
    obtain ⟨name, hname, hshows⟩ := hlisted row hrow hkind schema hs hv
    obtain ⟨-, hn, ht⟩ := hshows.of_schema hs
    exact ⟨name, hname, hn, ht,
      resolveTable_of_shows hc hrow hkind hs (hschema schema hs) htable hshows⟩
  · intro name j table j' h
    obtain ⟨row, hrow, hkind, rfl, schema, hs, hv⟩ := exists_row_of_resolveTable hc h
    exact ⟨row, hrow, hkind, rfl, rfl, rfl, hlisted row hrow hkind schema hs hv⟩

theorem resolves_listed_synonym :
    let rows : List TableRow := [⟨none, some "HR", "ÉTÉ", "VIEW"⟩,
      ⟨some "a", some "HR", "JOBS", "TABLE"⟩, ⟨some "b", some "HR", "JOBS", "SYNONYM"⟩]
    let db : Database Nat := ⟨[], rows, [], true, [], .never, none⟩
    let d : Discovery Nat (Database.Reading Nat) Database.Event Nat :=
      ⟨"c", db.client, "u", [], .ofNames ["sys"]⟩
    ∃ names, (d.listTables none).Gives (.ok names) ∧
      ∃ name ∈ names, name.schema = "hr" ∧ name.table = "jobs" ∧
        (d.resolveTable name).Gives (.error (.ambiguousTable name 2)) := by
  intro rows db d
  have hread : ∀ name ∈ ["HR", "ÉTÉ", "JOBS"], ReadsBack name := by
    have hall : ∀ name ∈ ["HR", "ÉTÉ", "JOBS"], name ≠ "" ∧ Text.upper name = name ∧
        Text.upper (Text.lower name) = name := by decide +kernel
    intro name hname
    obtain ⟨hne, hu, hl⟩ := hall name hname
    exact ⟨hne, hu, hl⟩
  have hrows : ∀ row ∈ rows, (∀ schema, row.schema = some schema → ReadsBack schema) ∧
      ReadsBack row.table := by
    simp [rows, hread]
  obtain ⟨names, hlist, heach, -⟩ := resolves_listed (d := d) (Database.client_serves rfl) hrows
  obtain ⟨name, hname, hn, ht, hresolve⟩ := heach ⟨some "a", some "HR", "JOBS", "TABLE"⟩
    (by decide) (by decide) "HR" rfl (by decide +kernel)
  refine ⟨names, hlist, name, hname, hn, ht, ?_⟩
  exact hresolve

/-- The names of a resolved table are those that its logical name was folded to. -/
theorem names_of_resolveTable (he : d.client.Exact) (hu : d.client.Stores upper)
    {name : TableName} {table : TableHandle} {j j' : Journal ε}
    (h : (d.resolveTable name).outcome j = (.ok (some table), j')) :
    table.schema = some (d.policy.lookupSchema upper name.schema) ∧
      table.table = d.policy.lookupTable upper name.schema name.table := by
  obtain ⟨k, j₁, answer, j₂, row, ha, -, rfl, hnames⟩ := exists_reported_of_resolveTable he h
  obtain rfl := hu ha
  exact hnames

theorem upper_names_of_resolveTable (he : d.client.Exact) (hu : d.client.Stores true)
    {name : TableName} {table : TableHandle} {j j' : Journal ε}
    (h : (d.resolveTable name).outcome j = (.ok (some table), j')) :
    table.schema = some (Text.upper name.schema) ∧ table.table = Text.upper name.table := by
  have hv := (resolveTable_eq_ok h).1
  have hnames := names_of_resolveTable he hu h
  rwa [NamePolicy.lookupSchema_of_visible hv, NamePolicy.lookupTable_of_visible hv] at hnames

/-- Two logical names stand for the same physical table just if their upper forms are the same.
Names that are read back from their upper forms share no table. -/
theorem same_table_iff (he : d.client.Exact) (hu : d.client.Stores true) {m n : TableName}
    {t u : TableHandle} {j₁ j₂ j₃ j₄ : Journal ε}
    (hm : (d.resolveTable m).outcome j₁ = (.ok (some t), j₂))
    (hn : (d.resolveTable n).outcome j₃ = (.ok (some u), j₄)) :
    (t.schema = u.schema ∧ t.table = u.table ↔
      Text.upper m.schema = Text.upper n.schema ∧ Text.upper m.table = Text.upper n.table) ∧
      (m.ComesBack → n.ComesBack → m ≠ n → ¬(t.schema = u.schema ∧ t.table = u.table)) := by
  have hiff : t.schema = u.schema ∧ t.table = u.table ↔
      Text.upper m.schema = Text.upper n.schema ∧ Text.upper m.table = Text.upper n.table := by
    obtain ⟨hms, hmt⟩ := upper_names_of_resolveTable he hu hm
    obtain ⟨hns, hnt⟩ := upper_names_of_resolveTable he hu hn
    rw [hms, hmt, hns, hnt, Option.some_inj]
  refine ⟨hiff, fun hmb hnb hne hsame => hne ?_⟩
  obtain ⟨hs, ht⟩ := hiff.mp hsame
  exact hmb.eq_of_upper_eq hnb hs ht

theorem same_table_iff_strasse :
    let rows : List TableRow := [⟨none, some "HR", "STRASSE", "TABLE"⟩,
      ⟨none, some "HR", "JOBS", "VIEW"⟩]
    let db : Database Nat := ⟨[], rows, [], true, [], .never, none⟩
    let d : Discovery Nat (Database.Reading Nat) Database.Event Nat :=
      ⟨"c", db.client, "u", [], .ofNames ["sys"]⟩
    let strasse : TableName := ⟨"hr", "strasse", by decide, by decide⟩
    let jobs : TableName := ⟨"hr", "jobs", by decide, by decide⟩
    ∃ t u, ((d.resolveTable strasse).outcome .empty).1 = .ok (some t) ∧
      ((d.resolveTable jobs).outcome .empty).1 = .ok (some u) ∧
      ¬(t.schema = u.schema ∧ t.table = u.table) := by
  intro rows db d strasse jobs
  have hs : ((d.resolveTable strasse).outcome .empty).1 =
      .ok (some ⟨"c", strasse, none, some "HR", "STRASSE"⟩) := by decide +kernel
  have hj : ((d.resolveTable jobs).outcome .empty).1 =
      .ok (some ⟨"c", jobs, none, some "HR", "JOBS"⟩) := by decide +kernel
  refine ⟨_, _, hs, hj, ?_⟩
  refine (same_table_iff (d := d) (Database.client_exact db) (Database.client_stores db)
    (Run.outcome_of_fst hs) (Run.outcome_of_fst hj)).2 ?_ ?_ (by decide)
  · exact ⟨by decide +kernel, by decide +kernel⟩
  · exact ⟨by decide +kernel, by decide +kernel⟩

/-- The upper form of a sharp s is that of two letters. -/
theorem two_names_of_one_table :
    let db : Database Nat :=
      ⟨[], [⟨none, some "HR", "STRASSE", "TABLE"⟩], [], true, [], .never, none⟩
    let d : Discovery Nat (Database.Reading Nat) Database.Event Nat :=
      ⟨"c", db.client, "u", [], .ofNames ["sys"]⟩
    d.client.Exact ∧ d.client.Stores true ∧ ∃ m n t u, TableName.make "hr" "strasse" = .ok m ∧
      TableName.make "hr" "straße" = .ok n ∧ m ≠ n ∧
      ((d.resolveTable m).outcome .empty).1 = .ok (some t) ∧
      ((d.resolveTable n).outcome .empty).1 = .ok (some u) ∧
      t.schema = u.schema ∧ t.table = u.table := by
  intro db d
  let m : TableName := ⟨"hr", "strasse", by decide, by decide⟩
  let n : TableName := ⟨"hr", "straße", by decide, by decide⟩
  refine ⟨Database.client_exact db, Database.client_stores db, m, n,
    ⟨"c", m, none, some "HR", "STRASSE"⟩, ⟨"c", n, none, some "HR", "STRASSE"⟩, ?_⟩
  decide +kernel

/-- The columns of a table with its names taken as they are. -/
def columnsAsNamed (d : Discovery κ ρ ε τ) (table : TableHandle) : Run ε (List Column) := do
  let (found, columns) ← d.withConnection true fun connection => do
    d.client.metadata connection
    let _ ← d.client.storesUpper connection
    let rows ← d.client.columns connection table.catalog table.schema (some table.table)
    let columns ← supportedColumns table rows
    return (!rows.isEmpty, columns)
  if !found then throw (.tableNotFound table.name)
  if columns.isEmpty then throw (.noSupportedColumns table.name)
  return columns

/-- Folding the names of a resolved table once more changes nothing. -/
theorem listColumns_of_resolveTable (he : d.client.Exact) (hu : d.client.Stores upper)
    {name : TableName} {table : TableHandle} {j j' : Journal ε}
    (h : (d.resolveTable name).outcome j = (.ok (some table), j')) :
    d.listColumns table = d.columnsAsNamed table := by
  obtain ⟨hs, ht⟩ := names_of_resolveTable he hu h
  unfold listColumns columnsAsNamed
  rw [hs, ht]
  refine congrArg (· >>= _) (congrArg (d.withConnection true) (funext fun k => ?_))
  refine congrArg (d.client.metadata k >>= ·) (funext fun _ => ?_)
  simp only [pure_bind]
  -- Both ask how names are stored, and the answer is the one that the names were folded by.
  apply Run.bind_congr
  intro j answer j' ha
  obtain rfl := hu ha
  rw [NamePolicy.lookupSchema_lookupSchema, NamePolicy.lookupTable_lookupTable]

end Discovery

namespace SqlStyle

theorem scan_eq_ok {s : SqlStyle} {table : TableHandle} {columns : List Column}
    {predicates : Predicates} {sql : String} (h : s.scan table columns predicates = .ok sql) :
    ∃ conditions, s.conjuncts predicates = .ok conditions ∧
      sql = "SELECT " ++ s.projection columns ++ " FROM " ++ s.source table ++
        if conditions = [] then "" else " WHERE " ++ " AND ".intercalate conditions := by
  obtain ⟨conditions, hc, hsql⟩ := bind_eq_ok.mp h
  refine ⟨conditions, hc, ?_⟩
  rw [← Except.ok.inj hsql]
  by_cases hnil : conditions = []
  · simp [hnil]
  · simp [hnil, String.append_assoc]

theorem source_eq {s : SqlStyle} {table : TableHandle} (h : table.table ≠ "") :
    s.source table = ".".intercalate
      (((table.catalog.toList ++ table.schema.toList ++ [table.table]).filter (· ≠ "")).map
        s.quote) := by
  have hlast : [table.table].filter (· ≠ "") = [table.table] := by simp [h]
  rw [source, List.filter_append _ [table.table], hlast]

end SqlStyle

namespace Connector

variable {c : Connector κ ρ ε τ} {upper : Bool}

/-- The columns of a resolved table are asked for, and its rows are read, under the names that the
database reported for it. -/
theorem reads_resolved (he : c.client.Exact) (hu : c.client.Stores upper) {name : TableName}
    {table : TableHandle} {j j' : Journal ε}
    (h : (c.discovery.resolveTable name).outcome j = (.ok (some table), j')) :
    c.discovery.listColumns table = c.discovery.columnsAsNamed table ∧
      ∀ {columns predicates j₁ sql j₂},
        (c.buildSql table columns predicates).outcome j₁ = (.ok sql, j₂) →
        ∃ conditions, c.style.conjuncts predicates = .ok conditions ∧
          sql = "SELECT " ++ c.style.projection columns ++ " FROM " ++ ".".intercalate
            (((table.catalog.toList ++ table.schema.toList ++ [table.table]).filter (· ≠ "")).map
              c.style.quote) ++
            if conditions = [] then "" else " WHERE " ++ " AND ".intercalate conditions := by
  refine ⟨Discovery.listColumns_of_resolveTable he hu h, ?_⟩
  intro columns predicates j₁ sql j₂ hsql
  have hne : table.table ≠ "" := by
    rw [(Discovery.names_of_resolveTable he hu h).2]
    exact NamePolicy.lookupTable_ne_empty name.table_ne
  obtain ⟨text, j₃, hs, hnote⟩ := Run.bind_eq_ok.mp hsql
  cases hnote
  obtain ⟨conditions, hc, rfl⟩ := SqlStyle.scan_eq_ok (Run.ofExcept_eq_ok hs)
  exact ⟨conditions, hc, by rw [SqlStyle.source_eq hne]⟩

theorem reads_resolved_strasse :
    let db : Database Nat := ⟨["HR"], [⟨none, some "HR", "STRASSE", "TABLE"⟩], [], true, [],
      .never, none⟩
    let config : Config := ⟨"c", "oracle", "u", none, none, "\"", 10, [], by decide, by decide⟩
    let c := Connector.make config db.client .generic .generic (.ofNames ["sys"])
    let name : TableName := ⟨"hr", "straße", by decide, by decide⟩
    let table : TableHandle := ⟨"c", name, none, some "HR", "STRASSE"⟩
    ((c.discovery.resolveTable name).outcome .empty).1 = .ok (some table) ∧
      c.discovery.listColumns table = c.discovery.columnsAsNamed table ∧
      ((c.buildSql table [] .all).outcome .empty).1 = .ok "SELECT NULL FROM \"HR\".\"STRASSE\"" ∧
      ∃ conditions, c.style.conjuncts .all = .ok conditions ∧
        "SELECT NULL FROM \"HR\".\"STRASSE\"" = "SELECT " ++ c.style.projection [] ++ " FROM " ++
          ".".intercalate (["HR", "STRASSE"].map c.style.quote) ++
            if conditions = [] then "" else " WHERE " ++ " AND ".intercalate conditions := by
  intro db config c name table
  have hresolve : ((c.discovery.resolveTable name).outcome .empty).1 = .ok (some table) := by
    decide +kernel
  have hbuild : ((c.buildSql table [] .all).outcome .empty).1 =
      .ok "SELECT NULL FROM \"HR\".\"STRASSE\"" := by
    decide +kernel
  obtain ⟨hcolumns, hsql⟩ := reads_resolved (c := c) (Database.client_exact db)
    (Database.client_stores db) (Run.outcome_of_fst hresolve)
  exact ⟨hresolve, hcolumns, hbuild, hsql (Run.outcome_of_fst hbuild)⟩

end Connector
end Pushdown
