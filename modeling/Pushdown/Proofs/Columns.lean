import Pushdown.Database
import Pushdown.Discovery
import Pushdown.Proofs.ColumnTypes
import Pushdown.Proofs.Except
import Pushdown.Proofs.Run

/-!
Columns of a table as they are listed. Rows of a type that the engine knows are kept as they were
reported, and each other row is noted.
-/
namespace Pushdown

/-- The journal after more notes. -/
def Journal.noting {ε : Type} (j : Journal ε) (notes : List Note) : Journal ε :=
  { j with notes := j.notes ++ notes }

/-- The column that a reported row stands for, if its type is known. -/
def ColumnRow.column? (row : ColumnRow) : Option Column :=
  (logicalType? row.code row.size).map (⟨row.name, ·⟩)

/-- The rows of types that are not known. -/
def skippedRows (rows : List ColumnRow) : List ColumnRow :=
  rows.filter (logicalType? ·.code none = none)

theorem ColumnRow.column?_eq_none {row : ColumnRow} :
    row.column? = none ↔ logicalType? row.code none = none := by
  rw [column?, Option.map_eq_none_iff]
  exact logicalType?_eq_none_congr row.size none

theorem Run.outcome_ofExcept {ε α : Type} (x : Except Error α) (j : Journal ε) :
    (Run.ofExcept id x).outcome j = (x, j) := by
  cases x <;> rfl

theorem Note.message_columnSkipped (table : TableHandle) (row : ColumnRow) :
    (Note.columnSkipped table row).message =
      "Skipping column " ++ row.name ++ " of " ++ table.text ++ ": unsupported type " ++
        toString row.code ++ (" (" ++ row.typeName.getD "None" ++ ")") := by
  unfold Note.message
  simp only [← String.append_assoc]

namespace Discovery

variable {κ ρ ε τ : Type} {d : Discovery κ ρ ε τ}

theorem supportedColumns_outcome (table : TableHandle) (rows : List ColumnRow) (j : Journal ε) :
    (supportedColumns table rows).outcome j = (.ok (rows.filterMap ColumnRow.column?),
      j.noting ((skippedRows rows).map (.columnSkipped table))) := by
  induction rows generalizing j with
  | nil => simp [supportedColumns, skippedRows, Journal.noting]
  | cons row rows ih =>
    rw [supportedColumns]
    cases htype : logicalType? row.code row.size with
    | none =>
      have hnone := (logicalType?_eq_none_congr row.size none).mp htype
      have hnote : (Run.note (.columnSkipped table row) : Run ε Unit).outcome j =
          (.ok (), j.noting [.columnSkipped table row]) := rfl
      rw [Run.outcome_bind_of_ok hnote, ih]
      simp [ColumnRow.column?, skippedRows, Journal.noting, htype, hnone]
    | some type =>
      have hsome : logicalType? row.code none ≠ none := fun hnone => by
        rw [(logicalType?_eq_none_congr none row.size).mp hnone] at htype
        cases htype
      rw [Run.outcome_bind_of_ok (ih j)]
      simp [ColumnRow.column?, skippedRows, Journal.noting, htype, hsome]

/-- The rows that the database reports for a table, under names as it stores them. -/
def reportedColumns (d : Discovery κ ρ ε τ) (table : TableHandle) (connection : κ) :
    Run ε (List ColumnRow) := do
  d.client.metadata connection
  let (schema, name) ← match table.schema with
    | some s => do
      let upper ← d.client.storesUpper connection
      pure (some (d.policy.lookupSchema upper s), d.policy.lookupTable upper s table.table)
    | none => pure (none, table.table)
  d.client.columns connection table.catalog schema (some name)

/-- The columns of known types, and whether any column was reported. -/
def foundColumns (d : Discovery κ ρ ε τ) (table : TableHandle) (connection : κ) :
    Run ε (Bool × List Column) := do
  let rows ← d.reportedColumns table connection
  let columns ← supportedColumns table rows
  return (!rows.isEmpty, columns)

/-- What is answered for what was found. -/
def columnAnswer (name : TableName) (found : Bool) (columns : List Column) :
    Except Error (List Column) :=
  if found then
    if columns = [] then .error (.noSupportedColumns name) else .ok columns
  else .error (.tableNotFound name)

theorem listColumns_eq (table : TableHandle) :
    d.listColumns table = d.withConnection true (d.foundColumns table) >>= fun found =>
      Run.ofExcept id (columnAnswer table.name found.1 found.2) := by
  have hanswer : (fun x : Bool × List Column => do
      if !x.1 then throw (.tableNotFound table.name)
      if x.2.isEmpty then throw (.noSupportedColumns table.name)
      return x.2) = fun x => Run.ofExcept (ε := ε) id (columnAnswer table.name x.1 x.2) := by
    funext ⟨found, columns⟩
    cases found <;> cases columns <;> rfl
  have hfound : d.foundColumns table = fun connection => do
      d.client.metadata connection
      let (schema, name) ← match table.schema with
        | some s => do
          let upper ← d.client.storesUpper connection
          pure (some (d.policy.lookupSchema upper s), d.policy.lookupTable upper s table.table)
        | none => pure (none, table.table)
      let rows ← d.client.columns connection table.catalog schema (some name)
      let columns ← supportedColumns table rows
      return (!rows.isEmpty, columns) := by
    funext connection
    unfold foundColumns reportedColumns
    cases table.schema <;> simp only [bind_assoc]
  rw [listColumns, hfound]
  exact congrArg _ hanswer

/-- What was done with a connection is answered once the connection is closed. -/
theorem withConnection_outcome {α : Type} (synonyms : Bool) (body : κ → Run ε α) {k : κ} {a : α}
    {j j₀ j₁ : Journal ε}
    (hk : (d.client.connect d.url (d.properties.put Properties.synonymsKey
      (if synonyms then "true" else "false"))).outcome j = (.ok k, j₀))
    (hbody : (body k).outcome j₀ = (.ok a, j₁)) :
    (d.withConnection synonyms body).outcome j =
      (((d.client.close k).outcome j₁).1.map fun _ => a, ((d.client.close k).outcome j₁).2) := by
  rw [withConnection, Run.outcome_bind_of_ok hk, Run.ensuring, Run.outcome_ofOutcome, hbody]
  dsimp only
  rcases (d.client.close k).outcome j₁ with ⟨e | _, j₂⟩ <;> rfl

variable {table : TableHandle} {k : κ} {rows : List ColumnRow} {j j₀ j₁ : Journal ε}

theorem listColumns_outcome
    (hk : (d.client.connect d.url (d.properties.put Properties.synonymsKey "true")).outcome j =
      (.ok k, j₀))
    (hrows : (d.reportedColumns table k).outcome j₀ = (.ok rows, j₁)) :
    let closing := (d.client.close k).outcome
      (j₁.noting ((skippedRows rows).map (.columnSkipped table)))
    (d.listColumns table).outcome j = (closing.1 >>= fun _ =>
      columnAnswer table.name (!rows.isEmpty) (rows.filterMap ColumnRow.column?), closing.2) := by
  intro closing
  have hfound : (d.foundColumns table k).outcome j₀ =
      (.ok (!rows.isEmpty, rows.filterMap ColumnRow.column?),
        j₁.noting ((skippedRows rows).map (.columnSkipped table))) := by
    rw [foundColumns, Run.outcome_bind_of_ok hrows,
      Run.outcome_bind_of_ok (supportedColumns_outcome table rows j₁), Run.outcome_pure]
  rw [listColumns_eq, Run.outcome_bind, withConnection_outcome true _ hk hfound]
  rcases hclose : closing with ⟨e | _, j₂⟩
  all_goals
    simp only [closing] at hclose
    rw [hclose]
  · rfl
  · exact Run.outcome_ofExcept _ j₂

/-- Just the columns of known types are listed, as they were reported; a table without columns and
one without columns of known types are told apart. Each column that is left out is noted once, and
no size keeps a column from its type. -/
theorem lists_supported
    (hk : (d.client.connect d.url (d.properties.put Properties.synonymsKey "true")).outcome j =
      (.ok k, j₀))
    (hrows : (d.reportedColumns table k).outcome j₀ = (.ok rows, j₁)) :
    let closing := (d.client.close k).outcome
      (j₁.noting ((skippedRows rows).map (.columnSkipped table)))
    let listing := (d.listColumns table).outcome j
    (closing.1 = .ok () →
      (rows = [] → listing.1 = .error (.tableNotFound table.name)) ∧
      (rows ≠ [] → (∀ row ∈ rows, logicalType? row.code none = none) →
        listing.1 = .error (.noSupportedColumns table.name)) ∧
      ((∃ row ∈ rows, logicalType? row.code none ≠ none) →
        listing.1 = .ok (rows.filterMap ColumnRow.column?))) ∧
      listing.2 = closing.2 ∧
      (∀ row ∈ skippedRows rows, ∃ typeName, (Note.columnSkipped table row).message =
        "Skipping column " ++ row.name ++ " of " ++ table.text ++ ": unsupported type " ++
          toString row.code ++ typeName) ∧
      ∀ row ∈ rows, (row.column? = none ↔ logicalType? row.code none = none) ∧
        (row.code ∈ sizedTextCodes → ∃ type,
          LogicalType.make .varchar (declaredLength row.size) = .ok type ∧
            logicalType? row.code row.size = some type) := by
  intro closing listing
  have hlisting : listing = _ := listColumns_outcome hk hrows
  refine ⟨fun hclosed => ?_, congrArg Prod.snd hlisting, fun row _ => ?_, fun row _ => ?_⟩
  · have hanswer : listing.1 =
        columnAnswer table.name (!rows.isEmpty) (rows.filterMap ColumnRow.column?) := by
      rw [hlisting]
      simp only [closing] at hclosed
      rw [hclosed, ok_bind]
    rw [hanswer]
    refine ⟨fun hempty => ?_, fun hne hunknown => ?_, fun hknown => ?_⟩
    · simp [hempty, columnAnswer]
    · have hnil : rows.filterMap ColumnRow.column? = [] :=
        List.filterMap_eq_nil_iff.mpr fun row hrow =>
          ColumnRow.column?_eq_none.mpr (hunknown row hrow)
      simp [hne, hnil, columnAnswer]
    · obtain ⟨row, hrow, htype⟩ := hknown
      have hne : rows ≠ [] := List.ne_nil_of_mem hrow
      have hcons : rows.filterMap ColumnRow.column? ≠ [] := fun hnil =>
        htype (ColumnRow.column?_eq_none.mp (List.filterMap_eq_nil_iff.mp hnil row hrow))
      simp [hne, hcons, columnAnswer]
  · exact ⟨_, Note.message_columnSkipped table row⟩
  · exact ⟨ColumnRow.column?_eq_none, fun hcode =>
      ⟨_, make_declaredLength row.size, logicalType?_of_mem hcode row.size⟩⟩

/-- A size past the longest length does no harm. -/
theorem lists_supported_geometry :
    let shape : ColumnRow := ⟨"GEOM", 2002, some "SDO_GEOMETRY", some 1⟩
    let rows : List ColumnRow :=
      [⟨"ID", -5, none, some (-1)⟩, shape, ⟨"NAME", 12, some "VARCHAR2", some 4294967296⟩, shape]
    let db : Database Nat :=
      ⟨[], [], [⟨some "HR", "EMP", rows⟩], true, [], .never, none⟩
    let d : Discovery Nat (Database.Reading Nat) Database.Event Nat :=
      ⟨"c", db.client, "u", [], .ofNames ["sys"]⟩
    let table : TableHandle := ⟨"c", ⟨"hr", "emp", by decide, by decide⟩, none, some "hr", "emp"⟩
    let longest : VarcharLength := ⟨maxVarcharLength, by decide, by decide⟩
    ((d.listColumns table).outcome .empty).1 =
        .ok [⟨"ID", .bigint⟩, ⟨"NAME", .varchar (some longest)⟩] ∧
      ((d.listColumns table).outcome .empty).2.notes =
        [.columnSkipped table shape, .columnSkipped table shape] := by
  intro shape rows db d table longest
  let j := (((d.client.connect d.url (d.properties.put Properties.synonymsKey "true")).outcome
    .empty)).2
  have hk : ((d.client.connect d.url (d.properties.put Properties.synonymsKey "true")).outcome
      .empty).1 = .ok 1 := by decide +kernel
  have hrows : ((d.reportedColumns table 1).outcome j).1 = .ok rows := by decide +kernel
  obtain ⟨hlisted, hjournal, -, -⟩ :=
    lists_supported (Run.outcome_of_fst hk) (Run.outcome_of_fst hrows)
  refine ⟨?_, ?_⟩
  · refine ((hlisted (by decide +kernel)).2.2 ⟨_, List.mem_cons_self, by decide⟩).trans ?_
    decide +kernel
  · rw [hjournal]
    decide +kernel

end Discovery
end Pushdown
