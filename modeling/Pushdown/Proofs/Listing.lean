import Pushdown.Proofs.Resolution

/-!
How the tables are listed by schema. The listing of one schema asks the database for its tables; the
listing of all tables is made of these listings, each in its own order.
-/
namespace Pushdown.Discovery

variable {κ ρ ε τ : Type} {d : Discovery κ ρ ε τ}

/-- Choosing tables before they are named is choosing among their names, if the names tell. -/
theorem filter_logicalNames {rows : List TableRow} {names : List TableName}
    {p : TableRow → Bool} {q : TableName → Bool}
    (h : (rows.filterMap d.logicalName?).mapM id = .ok names)
    (hpq : ∀ row ∈ rows, ∀ name, d.policy.Shows row name → p row = q name) :
    ((rows.filter p).filterMap d.logicalName?).mapM id = .ok (names.filter q) := by
  rw [mapM_id_eq_ok] at h ⊢
  induction rows generalizing names with
  | nil =>
    obtain rfl := List.map_eq_nil_iff.mp h.symm
    rfl
  | cons row rows ih =>
    have hrest := fun {names} hnames => @ih names hnames fun other ho => hpq other (by simp [ho])
    cases hn : d.logicalName? row with
    | none =>
      rw [List.filterMap_cons_none hn] at h
      cases hp : p row with
      | false => simpa [hp] using hrest h
      | true => simpa [hp, hn] using hrest h
    | some checked =>
      rw [List.filterMap_cons_some hn] at h
      obtain ⟨name, others, rfl, rfl, hothers⟩ := List.map_eq_cons_iff.mp h.symm
      have hshows := logicalName?_eq_ok.mp hn
      have hq := hpq row (by simp) name hshows
      cases hp : p row with
      | false => simpa [hp, ← hq] using hrest hothers.symm
      | true => simpa [hp, ← hq, hn] using hrest hothers.symm

/-- A listed schema asks the database for the schema that it was listed for. -/
theorem lookup_of_listed {schema : String} (hschema : ReadsBack schema)
    (hv : d.policy.isSystem schema = false) :
    d.policy.isSystem (Text.lower schema) = false ∧
      d.policy.lookupSchema true (Text.lower schema) = schema := by
  have hsystem : d.policy.isSystem (Text.lower schema) = false := by
    rw [← hv]
    exact NamePolicy.isSystem_congr (hschema.upper_lower.trans hschema.upper.symm)
  refine ⟨hsystem, ?_⟩
  rw [NamePolicy.lookupSchema_of_visible hsystem]
  exact hschema.upper_lower

/-- Every table has a name, and its schema, if it has one, can be asked for. -/
def Readable (rows : List TableRow) : Prop :=
  ∀ row ∈ rows, (∀ schema, row.schema = some schema → ReadsBack schema) ∧ row.table ≠ ""

variable {schemas : List String} {rows : List TableRow} {all : List TableName}

theorem Readable.named (h : Readable rows) {row : TableRow} (hrow : row ∈ rows) :
    row.table ≠ "" ∧ row.schema ≠ some "" := by
  obtain ⟨hschema, htable⟩ := h row hrow
  exact ⟨htable, fun hempty => (hschema "" hempty).ne_empty rfl⟩

/-- The listing of one schema is the part of the full listing that has its name. -/
theorem listTables_gives_of_all (hc : d.client.Serves true rows) (hrows : Readable rows)
    (hall : ((rows.filter (·.answers none none tableKinds)).filterMap d.logicalName?).mapM id =
      .ok all) {schema : String} (hschema : ReadsBack schema)
    (hv : d.policy.isSystem schema = false) :
    (d.listTables (some (Text.lower schema))).Gives
      (.ok (all.filter (·.schema = Text.lower schema))) := by
  obtain ⟨hsystem, hlookup⟩ := lookup_of_listed hschema hv
  refine listTables_gives_of_names hc (by simp [hsystem]) ?_
  have hfilter : rows.filter (·.answers (some schema) none tableKinds) =
      (rows.filter (·.answers none none tableKinds)).filter (·.schema = some schema) := by
    rw [List.filter_filter]
    refine List.filter_congr fun row _ => ?_
    rw [Bool.eq_iff_iff]
    simp
  rw [Option.map_some, hlookup, hfilter]
  refine filter_logicalNames hall fun row hrow name hshows => ?_
  -- A name tells the schema, since the folding of stored names can be undone.
  obtain ⟨own, hown, -, hname, -⟩ := hshows
  have hback := (hrows row (List.mem_filter.mp hrow).1).1 own hown
  rw [hown, hname, decide_eq_decide, Option.some_inj]
  exact (hback.lower_inj hschema).symm

/-- The tables of a listed schema are those of the full listing that have its name, and a table of
the full listing is in the listing of exactly one schema just if its own schema is reported. -/
theorem lists_by_schema (hc : d.client.Serves true rows) (hs : d.client.ServesSchemas schemas)
    (hschemas : ∀ schema ∈ schemas, ReadsBack schema) (hrows : Readable rows) :
    ∃ listed all, d.listSchemas.Gives (.ok listed) ∧ (d.listTables none).Gives (.ok all) ∧
      (∀ s ∈ listed, (d.listTables (some s)).Gives (.ok (all.filter (·.schema = s)))) ∧
      ∀ name ∈ all, (∃ row ∈ rows, d.policy.Shows row name) ∧
        ∀ row ∈ rows, d.policy.Shows row name → ∀ schema, row.schema = some schema →
          (schema ∈ schemas ↔ ∃! s, s ∈ listed ∧ name ∈ all.filter (·.schema = s)) := by
  have hnamed : ∀ row ∈ rows.filter (·.answers none none tableKinds),
      row.table ≠ "" ∧ row.schema ≠ some "" :=
    fun row hrow => hrows.named (List.mem_filter.mp hrow).1
  obtain ⟨all, hall⟩ := exists_logicalNames (d := d) hnamed
  have hlist := listSchemas_gives hc hs
  obtain ⟨listed, hlisted⟩ : ∃ listed, Text.sortedNames
      ((schemas.filter (!d.policy.isSystem ·)).map Text.lower) = listed := ⟨_, rfl⟩
  have hmem : ∀ s, s ∈ listed ↔
      ∃ schema ∈ schemas, d.policy.isSystem schema = false ∧ Text.lower schema = s := by
    simp [← hlisted, Text.mem_sortedNames, and_assoc]
  rw [hlisted] at hlist
  refine ⟨listed, all, hlist, listTables_gives_of_names hc rfl hall, ?_, ?_⟩
  · intro s hs
    obtain ⟨schema, hschema, hv, rfl⟩ := (hmem s).mp hs
    exact listTables_gives_of_all hc hrows hall (hschemas schema hschema) hv
  · intro name hname
    obtain ⟨shown, hshown, hshows⟩ := (mem_logicalNames hall).mp hname
    refine ⟨⟨shown, (List.mem_filter.mp hshown).1, hshows⟩, ?_⟩
    intro row hrow hshows schema hown
    obtain ⟨hv, hschema, -⟩ := hshows.of_schema hown
    simp only [List.mem_filter, hname, true_and, decide_eq_true_eq]
    constructor
    · intro hreported
      have hs : name.schema ∈ listed := (hmem _).mpr ⟨schema, hreported, hv, hschema.symm⟩
      exact ⟨name.schema, ⟨hs, rfl⟩, fun s hs => hs.2.symm⟩
    · rintro ⟨s, ⟨hs, rfl⟩, -⟩
      obtain ⟨other, hother, -, hsame⟩ := (hmem _).mp hs
      obtain rfl := ((hschemas other hother).lower_inj ((hrows row hrow).1 schema hown)).mp
        (hsame.trans hschema)
      exact hother

/-- A schema without tables, one that is not reported, a hidden one, a missing one and two tables
with the same names. -/
theorem lists_by_schema_synonym :
    let rows : List TableRow := [⟨none, some "HR", "JOBS", "TABLE"⟩, ⟨none, none, "DUAL", "VIEW"⟩,
      ⟨none, some "SYS", "TAB", "VIEW"⟩, ⟨none, some "ÉTÉ", "LOG", "TABLE"⟩,
      ⟨none, some "HR", "JOBS", "SYNONYM"⟩]
    let db : Database Nat := ⟨["SYS", "HR", "OE"], rows, [], true, [], .never, none⟩
    let d : Discovery Nat (Database.Reading Nat) Database.Event Nat :=
      ⟨"c", db.client, "u", [], .ofNames ["sys"]⟩
    let jobs : TableName := ⟨"hr", "jobs", by decide, by decide⟩
    let log : TableName := ⟨"été", "log", by decide, by decide⟩
    d.listSchemas.Gives (.ok ["hr", "oe"]) ∧ (d.listTables none).Gives (.ok [jobs, log, jobs]) ∧
      (d.listTables (some "hr")).Gives (.ok [jobs, jobs]) ∧
      (d.listTables (some "oe")).Gives (.ok []) := by
  intro rows db d jobs log
  have hread : ∀ name ∈ ["SYS", "HR", "OE", "ÉTÉ"], ReadsBack name := by
    have hall : ∀ name ∈ ["SYS", "HR", "OE", "ÉTÉ"], name ≠ "" ∧ Text.upper name = name ∧
        Text.upper (Text.lower name) = name := by decide +kernel
    intro name hname
    obtain ⟨hne, hu, hl⟩ := hall name hname
    exact ⟨hne, hu, hl⟩
  have hschemas : ∀ schema ∈ db.schemas, ReadsBack schema := by
    simp [db, hread]
  have hrows : Readable rows := by
    simp [Readable, rows, hread]
  obtain ⟨listed, all, hlist, hall, heach, -⟩ := lists_by_schema (d := d)
    (Database.client_serves rfl) (Database.client_servesSchemas rfl) hschemas hrows
  have hl : (d.listSchemas.outcome .empty).1 = .ok ["hr", "oe"] := by decide +kernel
  have ha : ((d.listTables none).outcome .empty).1 = .ok [jobs, log, jobs] := by decide +kernel
  obtain rfl : ["hr", "oe"] = listed := Except.ok.inj (hl.symm.trans (hlist .empty))
  obtain rfl : [jobs, log, jobs] = all := Except.ok.inj (ha.symm.trans (hall .empty))
  exact ⟨hlist, hall, heach "hr" (by simp), heach "oe" (by simp)⟩

end Pushdown.Discovery
