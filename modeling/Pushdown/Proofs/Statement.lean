import Mathlib.Data.List.Forall2
import Pushdown.Proofs.ConditionText
import Pushdown.ScanStatement

/-!
Scan statements read back. Names, text and conditions are put side by side, and each of them is
found again where it was put, whatever characters it holds.
-/
namespace Pushdown

open Sql

/-! What the tokens of a condition carry. -/

theorem Sql.Constant.names_tokens (k : Constant) : k.tokens.filterMap Token.name? = [] := by
  rcases k with _ | _ | b | _ | _ | _
  case truth => cases b <;> rfl
  all_goals rfl

/-- The values that a condition is put together from, in the order in which it has them. -/
def Domain.emitted (d : Domain) : List (Option Value) :=
  d.spans.flatMap (·.operands.map some) ++ d.points

section
variable {column : String} {dialect : Dialect} {type : LogicalType} {q : Char}

theorem Test.names_tokens (t : Test) :
    (t.atom q column).tokens.filterMap Token.name? = [column] := by
  cases t with
  | compare op literal => exact congrArg (column :: ·) (Constant.names_tokens _)
  | isNull => rfl
  | isNotNull => rfl

/-- A condition names its own column and no other. -/
theorem Condition.names_alternatives (c : Condition) :
    ∀ n ∈ (alternativesTokens (c.alternatives q column)).filterMap Token.name?, n = column := by
  rw [filterMap_alternatives rfl rfl rfl rfl]
  intro n hn
  obtain ⟨a, ha, hn⟩ := List.mem_flatMap.mp hn
  cases c with
  | never =>
    obtain rfl : a = .compare (.constant (.number ['1'])) .eq (.number ['0']) := by
      simpa [alternatives] using ha
    cases hn
  | anyOf disjuncts =>
    obtain ⟨atoms, hatoms, ha⟩ := List.mem_flatten.mp ha
    obtain ⟨tests, -, rfl⟩ := List.mem_map.mp hatoms
    obtain ⟨t, -, rfl⟩ := List.mem_map.mp ha
    rw [Test.names_tokens] at hn
    exact List.mem_singleton.mp hn

/-- The strings in the tests of a column. -/
def testStrings (q : Char) (column : String) (tests : List Test) : List String :=
  tests.flatMap fun t => (t.atom q column).tokens.filterMap Token.string?

theorem Condition.strings_alternatives (disjuncts : List (List Test)) :
    (((anyOf disjuncts).alternatives q column).flatten.flatMap fun a =>
      a.tokens.filterMap Token.string?) = disjuncts.flatMap (testStrings q column) := by
  rw [alternatives, ← List.flatMap_def, List.flatMap_assoc]
  simp only [List.flatMap_map]
  rfl

theorem Condition.strings_comparison (hd : dialect.Known) (hq : IsQuote q)
    (ht : type.kind = .varchar) {op : Comparison} {v : Option Value} {t : Test}
    (h : comparison column dialect type op v = .ok t) :
    ∃ s, Literal.textOf v = .ok s ∧ (t.atom q column).tokens.filterMap Token.string? = [s] := by
  obtain ⟨literal, hrender, rfl⟩ := comparison_eq_ok.mp h
  obtain ⟨k, hreads, htext⟩ := Literal.render_reads hd hq hrender
  obtain ⟨s, hs, rfl⟩ := htext ht
  refine ⟨s, hs, ?_⟩
  rw [Test.atom, Constant.ofLiteral_eq hreads]
  rfl

theorem Condition.strings_side (hd : dialect.Known) (hq : IsQuote q) (ht : type.kind = .varchar)
    {op : Comparison} {values : List Value} {tests : List Test}
    (h : List.Forall₂ (fun v t => comparison column dialect type op (some v) = .ok t)
      values tests) :
    List.Forall₂ (fun v s => Literal.textOf v = .ok s) (values.map some)
      (testStrings q column tests) := by
  induction h with
  | nil => exact .nil
  | cons hvt _ ih =>
    obtain ⟨s, hs, hstrings⟩ := strings_comparison hd hq ht hvt
    simp only [testStrings, List.flatMap_cons, hstrings]
    exact .cons hs ih

theorem Condition.strings_rangeTests (hd : dialect.Known) (hq : IsQuote q)
    (ht : type.kind = .varchar) {r : Range} {tests : List Test}
    (h : rangeTests column dialect type r = .ok tests) :
    List.Forall₂ (fun v s => Literal.textOf v = .ok s) (r.operands.map some)
      (testStrings q column tests) := by
  obtain ⟨lows, highs, hlows, hhighs, rfl⟩ := rangeTests_eq_ok.mp h
  have hlow := strings_side hd hq ht (lowTests_eq_ok.mp hlows)
  have hhigh := strings_side hd hq ht (highTests_eq_ok.mp hhighs)
  have hstrings : testStrings q column (if (lows ++ highs).isEmpty then [.isNotNull]
      else lows ++ highs) = testStrings q column lows ++ testStrings q column highs := by
    split
    · rename_i hempty
      obtain ⟨rfl, rfl⟩ := List.append_eq_nil_iff.mp (List.isEmpty_iff.mp hempty)
      rfl
    · exact List.flatMap_append
  rw [hstrings, Bounds.operands, List.map_append]
  exact List.rel_append hlow hhigh

theorem Condition.strings_valueTests (hd : dialect.Known) (hq : IsQuote q)
    (ht : type.kind = .varchar) {v : Option Value} {tests : List Test}
    (h : valueTests column dialect type v = .ok tests) :
    List.Forall₂ (fun v s => Literal.textOf v = .ok s) [v] (testStrings q column tests) := by
  obtain ⟨t, ht', rfl⟩ := valueTests_eq_ok.mp h
  obtain ⟨s, hs, hstrings⟩ := strings_comparison hd hq ht ht'
  simp only [testStrings, List.flatMap_singleton, hstrings]
  exact .cons hs .nil

/-- The strings in a condition on text are the texts of the domain. -/
theorem Condition.Compiled.strings (hd : dialect.Known) (hq : IsQuote q)
    (ht : type.kind = .varchar) {d : Domain} {c : Condition}
    (h : Compiled column dialect type d c) :
    d.emitted.mapM Literal.textOf =
      .ok ((alternativesTokens (c.alternatives q column)).filterMap Token.string?) := by
  rw [filterMap_alternatives rfl rfl rfl rfl, mapM_eq_ok]
  cases h with
  | none hset =>
    have hemitted : d.emitted = [] := by
      simp [Domain.emitted, Domain.spans, Domain.points, hset, ValueSet.ranges, ValueSet.values]
    rw [hemitted]
    split <;> exact .nil
  | notNull hset hnull =>
    have hemitted : d.emitted = [] := by
      simp [Domain.emitted, Domain.spans, Domain.points, hset, ValueSet.ranges, ValueSet.values]
    rw [hemitted]
    exact .nil
  | @listed ranges values inhabited spanTests pointTests hset hspans hpoints =>
    have hspan : List.Forall₂ (fun v s => Literal.textOf v = .ok s)
        (d.spans.flatMap (·.operands.map some)) (spanTests.flatMap (testStrings q column)) :=
      List.rel_flatMap hspans fun r tests htests => strings_rangeTests hd hq ht htests
    have hpoint : List.Forall₂ (fun v s => Literal.textOf v = .ok s)
        (d.points.flatMap fun v => [v]) (pointTests.flatMap (testStrings q column)) :=
      List.rel_flatMap hpoints fun v tests htests => strings_valueTests hd hq ht htests
    have hnull : (if d.nullAllowed then [[Test.isNull]] else []).flatMap (testStrings q column) =
        [] := by
      split <;> rfl
    rw [strings_alternatives, List.flatMap_append, List.flatMap_append, hnull, List.append_nil]
    rw [List.flatMap_singleton'] at hpoint
    exact List.rel_append hspan hpoint

end

/-! Names with something between them. -/

section
variable {q : Char}

theorem reads_path (hq : IsQuote q) {names : List String} (hne : names ≠ []) :
    Reads q (".".intercalate (names.map (Text.quoteIdentifier q.toString)))
      ([.dot].intercalate (names.map fun n => [.name n])) := by
  induction names with
  | nil => exact absurd rfl hne
  | cons n rest ih =>
    cases rest with
    | nil => simpa [List.intercalate] using reads_name hq n
    | cons m rest =>
      have hrest := ih (by simp)
      intro tail htail
      have htext : (".".intercalate ((n :: m :: rest).map (Text.quoteIdentifier q.toString))).toList ++
          tail = (Text.quoteIdentifier q.toString n).toList ++ '.' ::
            ((".".intercalate ((m :: rest).map (Text.quoteIdentifier q.toString))).toList ++
              tail) := by
        simp
      have hdot : (('.' :: ((".".intercalate ((m :: rest).map
          (Text.quoteIdentifier q.toString))).toList ++ tail)).head? ≠ some q) := by
        rcases hq with rfl | rfl <;> simp
      rw [htext, lexFrom_name hq n hdot, lexFrom_symbol (by simp) hq rfl, hrest tail htail]
      simp [List.intercalate, Function.comp_def]

/-- A condition that can stand among others: its tokens are what the text is read as, and they add
its formulas to a conjunction. -/
structure Fragment (q : Char) where
  text : String
  tokens : List Token
  formulas : List Formula
  reads : Reads q text tokens
  conjuncts : Conjuncts tokens formulas

/-- What the fragment says, read alone. -/
def Fragment.formula (f : Fragment q) : Formula := .all f.formulas

theorem Fragment.lex? (f : Fragment q) : lex? q f.text = some f.tokens := f.reads.lex?

theorem Fragment.condition? (f : Fragment q) : condition? q f.text = some f.formula := by
  rw [Sql.condition?, f.lex?]
  exact f.conjuncts.parse?

/-- The fragment of a condition on a column. -/
def Condition.Readable.fragment {c : Condition} {dialect : Dialect} (h : c.Readable q)
    (hd : dialect.Known) (hq : IsQuote q) (column : String) : Fragment q where
  text := c.text dialect (Text.quoteIdentifier q.toString column)
  tokens := alternativesTokens (c.alternatives q column)
  formulas := alternativesFormulas (c.alternatives q column)
  reads := h.reads column hd hq
  conjuncts := h.conjuncts column

/-- Fragments joined by AND hold together just when each of them does alone. -/
theorem parse?_fragments {fs : List (Fragment q)} (hne : fs ≠ []) :
    ∃ f, parse? ([.word .AND].intercalate (fs.map (·.tokens))) = some f ∧
      ∀ test, f.Holds test ↔ ∀ g ∈ fs, g.formula.Holds test := by
  refine ⟨_, (conjuncts_all hne fun g _ => g.conjuncts).parse?, fun test => ?_⟩
  simp only [Fragment.formula, Formula.holds_all, List.mem_flatMap]
  constructor
  · intro h g hg f hf
    exact h f ⟨g, hg, hf⟩
  · rintro h f ⟨g, hg, hf⟩
    exact h g hg f hf

end

/-! Statements. -/

def projectionTokens (columns : List Column) : List Token :=
  if columns = [] then [.word .NULL] else [.comma].intercalate (columns.map fun c => [.name c.name])

/-- The names of a table, without the missing and empty ones before the last. -/
def TableHandle.path (table : TableHandle) : List String :=
  (table.catalog.toList ++ table.schema.toList).filter (· ≠ "") ++ [table.table]

/-- The tokens of a statement, given those of its conditions. -/
def scanTokens (table : TableHandle) (columns : List Column) (conditions : List (List Token)) :
    List Token :=
  [.word .SELECT] ++ projectionTokens columns ++ [.word .FROM] ++
    [.dot].intercalate (table.path.map fun n => [.name n]) ++
    if conditions = [] then [] else [.word .WHERE] ++ [.word .AND].intercalate conditions

section
variable {dialect : Dialect} {q : Char}

theorem SqlStyle.reads_projection (hq : IsQuote q) (columns : List Column) :
    Reads q (projection ⟨dialect, q.toString⟩ columns) (projectionTokens columns) := by
  unfold projection projectionTokens
  by_cases hne : columns = []
  · subst hne
    exact reads_word hq .NULL
  · have hread : Reads q
        (", ".intercalate (columns.map fun c => quote ⟨dialect, q.toString⟩ c.name))
        ([.comma].intercalate (columns.map fun c => [.name c.name])) :=
      Reads.intercalate (separates_comma hq) hne fun c _ => reads_name hq c.name
    have hnames : ", ".intercalate (columns.map fun c => quote ⟨dialect, q.toString⟩ c.name) ≠
        "" := by
      intro hempty
      rw [hempty] at hread
      have hlex : some [] = some _ := hread.lex?
      obtain ⟨c, rest, rfl⟩ := List.exists_cons_of_ne_nil hne
      cases rest <;> simp [List.intercalate] at hlex
    dsimp only
    rw [if_neg hne, if_neg hnames]
    exact hread

theorem SqlStyle.reads_scan (hq : IsQuote q) (table : TableHandle) (columns : List Column)
    (fs : List (Fragment q)) :
    Reads q (if (fs.map (·.text)).isEmpty then
        "SELECT " ++ projection ⟨dialect, q.toString⟩ columns ++ " FROM " ++
          source ⟨dialect, q.toString⟩ table
      else "SELECT " ++ projection ⟨dialect, q.toString⟩ columns ++ " FROM " ++
        source ⟨dialect, q.toString⟩ table ++ " WHERE " ++ " AND ".intercalate (fs.map (·.text)))
      (scanTokens table columns (fs.map (·.tokens))) := by
  have hsource : Reads q (source ⟨dialect, q.toString⟩ table)
      ([.dot].intercalate (table.path.map fun n => [.name n])) :=
    reads_path hq (by simp)
  have hprojection : Reads q (projection ⟨dialect, q.toString⟩ columns) (projectionTokens columns) :=
    reads_projection hq columns
  have hselect := ((reads_word hq .SELECT).separated (separates_blank hq) hprojection).separated
    (separates_word hq .FROM) hsource
  have hfront : Word.SELECT.text ++ " " = "SELECT " := rfl
  have hfrom : " " ++ Word.FROM.text ++ " " = " FROM " := rfl
  rw [hfront, hfrom, List.append_nil] at hselect
  unfold scanTokens
  by_cases hne : fs = []
  · subst hne
    simpa using hselect
  · have hwhere : " " ++ Word.WHERE.text ++ " " = " WHERE " := rfl
    have hand : " " ++ Word.AND.text ++ " " = " AND " := rfl
    have hconditions := Reads.intercalate (separates_word hq .AND) hne fun f _ => f.reads
    have hread := hselect.separated (separates_word hq .WHERE) hconditions
    rw [hwhere, hand] at hread
    rw [if_neg (by simpa using hne), if_neg (by simpa using hne)]
    simpa using hread

/-- The condition of a constraint is a fragment that names the constrained column alone. On text,
its strings are those of the domain. -/
theorem SqlStyle.exists_fragment (hd : dialect.Known) (hq : IsQuote q) {column text : String}
    {d : Domain} {type : LogicalType}
    (h : condition ⟨dialect, q.toString⟩ column d type = .ok (some text)) :
    ∃ f : Fragment q, f.text = text ∧ (∀ n ∈ f.tokens.filterMap Token.name?, n = column) ∧
      (type.kind = .varchar →
        d.emitted.mapM Literal.textOf = .ok (f.tokens.filterMap Token.string?)) := by
  obtain ⟨c, hc, htext⟩ := bind_eq_ok.mp h
  rcases Condition.ofDomain_eq_ok hc with ⟨-, rfl⟩ | ⟨-, -, c, rfl, hcompiled⟩
  · cases htext
  · obtain rfl := Option.some.inj (Except.ok.inj htext)
    exact ⟨(hcompiled.readable hd hq).fragment hd hq column, rfl, c.names_alternatives,
      hcompiled.strings hd hq⟩

/-- The fragment that never holds does not hold of any row. -/
theorem not_holds_never (hd : dialect.Known) (hq : IsQuote q) {f : Fragment q}
    (h : f.text = dialect.alwaysFalse) (row : Row) : ¬ f.formula.Holds row.test := by
  have hnever : Condition.never.Readable q := trivial
  have hread : condition? q dialect.alwaysFalse =
      some (.all (alternativesFormulas (Condition.never.alternatives q ""))) :=
    hnever.condition?_text "" hd hq
  rw [← h, f.condition?, Option.some.injEq] at hread
  have hfails : row.test (.compare (.constant (.number ['1'])) .eq (.number ['0'])) = .fails := rfl
  rw [hread, holds_alternatives]
  simp [Condition.alternatives, hfails]

/-- The conditions of a statement: the one that never holds, or those of the constraints that have
one, in their order. Each is a fragment. -/
theorem SqlStyle.conjuncts_spec (hd : dialect.Known) (hq : IsQuote q) {predicates : Predicates}
    {texts : List String} (h : conjuncts ⟨dialect, q.toString⟩ predicates = .ok texts) :
    (∀ text ∈ texts, ∃ f : Fragment q, f.text = text) ∧
      (predicates.isNone = true → texts = [dialect.alwaysFalse]) ∧
      (predicates.isNone = false → ∃ conditions,
        List.Forall₂ (fun e c => condition ⟨dialect, q.toString⟩ e.column.name e.domain
          e.column.type = .ok c) predicates.entries conditions ∧
        texts = conditions.filterMap id) := by
  unfold conjuncts at h
  split at h
  · rename_i hnone
    obtain rfl := Except.ok.inj h
    have hnever : Condition.never.Readable q := trivial
    refine ⟨fun text htext => ?_, fun _ => rfl, by simp [hnone]⟩
    obtain rfl := List.mem_singleton.mp htext
    exact ⟨hnever.fragment hd hq "", rfl⟩
  · rename_i hnone
    obtain ⟨conditions, hconditions, htexts⟩ := bind_eq_ok.mp h
    obtain rfl := Except.ok.inj htexts
    have hentries := mapM_eq_ok.mp hconditions
    refine ⟨fun text htext => ?_, by simp [hnone], fun _ => ⟨conditions, hentries, rfl⟩⟩
    obtain ⟨c, hc, rfl⟩ := List.mem_filterMap.mp htext
    have hall : ∀ c ∈ conditions, ∀ text, c = some text → ∃ f : Fragment q, f.text = text := by
      refine forall_of_forall₂ hentries ?_
      intro e c hc text heq
      subst heq
      obtain ⟨f, hf, -⟩ := exists_fragment hd hq hc
      exact ⟨f, hf⟩
    exact hall _ hc text rfl

theorem exists_fragments {texts : List String}
    (h : ∀ text ∈ texts, ∃ f : Fragment q, f.text = text) :
    ∃ fs : List (Fragment q), fs.map (·.text) = texts := by
  induction texts with
  | nil => exact ⟨[], rfl⟩
  | cons text texts ih =>
    obtain ⟨f, hf⟩ := h text (by simp)
    obtain ⟨fs, hfs⟩ := ih fun t ht => h t (by simp [ht])
    exact ⟨f :: fs, by simp [hf, hfs]⟩

/-- What is found in a statement, given the fragments that its constraints are compiled to. -/
structure ScanReading (dialect : Dialect) (q : Char) (table : TableHandle) (columns : List Column)
    (predicates : Predicates) (sql : String) (fragments : List (Fragment q)) : Prop where
  tokens : lex? q sql = some (scanTokens table columns (fragments.map (·.tokens)))
  fragment : ∀ f ∈ fragments, lex? q f.text = some f.tokens ∧ condition? q f.text = some f.formula
  selects : fragments ≠ [] → ∃ f,
    parse? ([.word .AND].intercalate (fragments.map (·.tokens))) = some f ∧
      ∀ test, f.Holds test ↔ ∀ g ∈ fragments, g.formula.Holds test
  nothing : predicates.isNone = true → fragments.map (·.text) = [dialect.alwaysFalse] ∧
    ∀ f ∈ fragments, ∀ row : Row, ¬ f.formula.Holds row.test
  constraints : predicates.isNone = false → ∃ conditions,
    List.Forall₂ (fun e c => SqlStyle.condition ⟨dialect, q.toString⟩ e.column.name e.domain
      e.column.type = .ok c) predicates.entries conditions ∧
    fragments.map (·.text) = conditions.filterMap id
  carried : ∀ e ∈ predicates.entries, ∀ text,
    SqlStyle.condition ⟨dialect, q.toString⟩ e.column.name e.domain e.column.type =
      .ok (some text) → ∃ ts, lex? q text = some ts ∧
        (∀ n ∈ ts.filterMap Token.name?, n = e.column.name) ∧
        (e.column.type.kind = .varchar →
          e.domain.emitted.mapM Literal.textOf = .ok (ts.filterMap Token.string?))

/-- A scan statement has the structure it was put together with, whatever its names and values
contain. -/
theorem SqlStyle.scan_reading (hd : dialect.Known) (hq : IsQuote q) {table : TableHandle}
    {columns : List Column} {predicates : Predicates} {sql : String}
    (h : scan ⟨dialect, q.toString⟩ table columns predicates = .ok sql) :
    ∃ fragments, ScanReading dialect q table columns predicates sql fragments := by
  obtain ⟨texts, htexts, hsql⟩ := bind_eq_ok.mp h
  obtain ⟨hfragments, hnothing, hconstraints⟩ := conjuncts_spec hd hq htexts
  obtain ⟨fs, rfl⟩ := exists_fragments hfragments
  obtain rfl := Except.ok.inj hsql
  refine ⟨fs, ?_, fun f _ => ⟨f.lex?, f.condition?⟩, parse?_fragments, fun hnone => ?_,
    hconstraints, fun e _ text he => ?_⟩
  · exact (reads_scan hq table columns fs).lex?
  · refine ⟨hnothing hnone, ?_⟩
    intro f hf row
    have htext : f.text = dialect.alwaysFalse := by
      have := List.mem_map_of_mem (f := Fragment.text) hf
      rw [hnothing hnone] at this
      exact List.mem_singleton.mp this
    exact not_holds_never hd hq htext row
  · obtain ⟨f, rfl, hnames, hstrings⟩ := exists_fragment hd hq he
    exact ⟨f.tokens, f.lex?, hnames, hstrings⟩

/-- Names that end in a quote, and text that goes on as a condition would. -/
theorem SqlStyle.scan_reading_quotes :
    let table : TableHandle := ⟨"c", ⟨"hr", "t", by decide, by decide⟩, none, some "", "t\" WHERE"⟩
    let column : Column := ⟨"x\"", .varchar none⟩
    let domain : Domain := ⟨.some [] [some (.text "' OR 1 = 1")] (.inr (by simp)), true⟩
    let predicates : Predicates := ⟨[⟨column, domain⟩], false, by simp⟩
    let sql := "SELECT \"x\"\"\" FROM \"t\"\" WHERE\" WHERE " ++
      "(\"x\"\"\" = ''' OR 1 = 1' OR \"x\"\"\" IS NULL)"
    scan ⟨Oracle.dialect, "\""⟩ table [column] predicates = .ok sql ∧
      ∃ fragments, ScanReading Oracle.dialect '"' table [column] predicates sql fragments := by
  intro table column domain predicates sql
  have hscan : scan ⟨Oracle.dialect, "\""⟩ table [column] predicates = .ok sql := by
    decide +kernel
  exact ⟨hscan, scan_reading (.inr rfl) (.inl rfl) hscan⟩

end

end Pushdown
