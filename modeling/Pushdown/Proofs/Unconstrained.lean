import Mathlib.Data.List.Nodup
import Pushdown.Proofs.Condition
import Pushdown.Proofs.NameSet
import Pushdown.ScanStatement

/-!
Constraints that constrain nothing. Pairs of a column and a domain are gathered without the domains
of all values and null, which no statement would show, and only the columns that are left have to
differ in name.
-/
namespace Pushdown

theorem mem_repeatedNames {names : List String} {name : String} :
    name ∈ repeatedNames names ↔ 1 < names.count name := by
  rw [repeatedNames, Text.mem_sortedNames, List.mem_filter, decide_eq_true_eq]
  refine and_iff_right_of_imp fun h => ?_
  exact List.count_pos_iff.mp (Nat.zero_lt_of_lt h)

namespace Predicates

variable {entries : List Constraint} {isNone : Bool} {p : Predicates}

theorem make_eq_ok : make entries isNone = .ok p ↔ p.entries = entries ∧ p.isNone = isNone := by
  obtain ⟨own, ownNone, distinct⟩ := p
  unfold make
  dsimp only
  split
  · simp [eq_comm]
  · rename_i hrepeated
    constructor
    · intro h
      cases h
    · rintro ⟨rfl, -⟩
      exact absurd distinct hrepeated

theorem make_eq_error {fault : RepeatedColumns} : make entries isNone = .error fault ↔
    ¬(entries.map (·.column.name)).Nodup ∧
      fault = ⟨repeatedNames (entries.map (·.column.name))⟩ := by
  unfold make
  dsimp only
  split
  · rename_i h
    simp [h]
  · rename_i h
    simp [h, eq_comm]

theorem exists_make_eq_ok :
    (∃ p, make entries isNone = .ok p) ↔ (entries.map (·.column.name)).Nodup := by
  simp only [make_eq_ok]
  constructor
  · rintro ⟨p, rfl, -⟩
    exact p.distinct
  · intro h
    exact ⟨⟨entries, isNone, h⟩, rfl, rfl⟩

/-- A column has the domain of its entry; no other entry has its name. -/
theorem get?_eq_some {column : Column} {domain : Domain} :
    p.get? column = some domain ↔ ⟨column, domain⟩ ∈ p.entries := by
  constructor
  · intro h
    obtain ⟨e, hfind, rfl⟩ := Option.map_eq_some_iff.mp h
    have hcolumn : e.column = column := by simpa using List.find?_some hfind
    rw [← hcolumn]
    exact List.mem_of_find?_eq_some hfind
  · intro hmem
    have hsome : (p.entries.find? (·.column == column)).isSome :=
      List.find?_isSome.mpr ⟨_, hmem, beq_self_eq_true column⟩
    obtain ⟨e, hfind⟩ := Option.isSome_iff_exists.mp hsome
    have hcolumn : e.column = column := by simpa using List.find?_some hfind
    have he : e = ⟨column, domain⟩ := List.inj_on_of_nodup_map p.distinct
      (List.mem_of_find?_eq_some hfind) hmem (congrArg Column.name hcolumn)
    rw [get?, hfind, he]
    rfl

end Predicates

/-! Statements. -/

section
variable {ε α β : Type} {f : α → Except ε (Option β)}

/-- The results that are there, or the first error. -/
def present (f : α → Except ε (Option β)) (xs : List α) : Except ε (List β) := do
  return (← xs.mapM f).filterMap id

theorem present_cons {x : α} {y : Option β} (h : f x = .ok y) (xs : List α) :
    present f (x :: xs) = (y.toList ++ ·) <$> present f xs := by
  rw [present, present, List.mapM_cons, h, ok_bind]
  cases xs.mapM f with
  | error e => rfl
  | ok ys => cases y <;> rfl

/-- What gives no result may be left out. -/
theorem present_filter {keep : α → Bool} {xs : List α}
    (h : ∀ x ∈ xs, keep x = false → f x = .ok none) :
    present f (xs.filter keep) = present f xs := by
  induction xs with
  | nil => rfl
  | cons x xs ih =>
    have hrest := ih fun y hy => h y (List.mem_cons_of_mem x hy)
    cases hk : keep x with
    | false =>
      rw [List.filter_cons_of_neg (by simp [hk]), hrest,
        present_cons (h x List.mem_cons_self hk), Option.toList_none]
      exact (id_map _).symm
    | true =>
      rw [List.filter_cons_of_pos hk]
      cases hx : f x with
      | error e => simp [present, hx]
      | ok y => rw [present_cons hx, present_cons hx, hrest]

end

namespace SqlStyle

theorem condition_of_isAll (s : SqlStyle) (column : String) {d : Domain} (type : LogicalType)
    (h : d.isAll = true) : s.condition column d type = .ok none := by
  rw [condition, Condition.ofDomain, h]
  rfl

/-- Statements do not show the domains of all values and null. -/
theorem scan_filter (s : SqlStyle) (table : TableHandle) (columns : List Column)
    {p q : Predicates} (hentries : p.entries = q.entries.filter (!·.domain.isAll))
    (hnone : p.isNone = q.isNone) : s.scan table columns p = s.scan table columns q := by
  have hconjuncts : s.conjuncts p = s.conjuncts q := by
    rw [conjuncts, conjuncts, hnone, hentries]
    split
    · rfl
    · apply present_filter
      intro e _ hall
      exact s.condition_of_isAll e.column.name e.column.type (by simpa using hall)
  rw [scan, hconjuncts, scan]

end SqlStyle

/-- A pair as it is kept. -/
def Constraint.ofPair (pair : Column × Domain) : Constraint := ⟨pair.1, pair.2⟩

/-- The pairs whose domain is not that of all values and null. -/
def constraining (pairs : List (Column × Domain)) : List (Column × Domain) :=
  pairs.filter (!·.2.isAll)

namespace Predicates

variable {pairs : List (Column × Domain)} {p q : Predicates} {column : Column} {domain : Domain}

theorem ofPairs_eq (pairs : List (Column × Domain)) :
    ofPairs pairs = make ((constraining pairs).map .ofPair) false := rfl

theorem names_ofPair (pairs : List (Column × Domain)) :
    (pairs.map Constraint.ofPair).map (·.column.name) = pairs.map (·.1.name) := by
  rw [List.map_map]
  rfl

theorem mem_constraining :
    (column, domain) ∈ constraining pairs ↔ (column, domain) ∈ pairs ∧ domain.isAll = false := by
  rw [constraining, List.mem_filter, Bool.not_eq_true']

theorem get?_ofPairs (hp : ofPairs pairs = .ok p) :
    p.get? column = some domain ↔ (column, domain) ∈ pairs ∧ domain.isAll = false := by
  rw [get?_eq_some, (make_eq_ok.mp hp).1, ← mem_constraining]
  constructor
  · intro hmem
    obtain ⟨pair, hpair, heq⟩ := List.mem_map.mp hmem
    cases heq
    exact hpair
  · exact List.mem_map_of_mem

theorem get?_ofPairs_eq_none (hp : ofPairs pairs = .ok p) :
    p.get? column = .none ↔ ∀ domain, (column, domain) ∈ pairs → domain.isAll = true := by
  rw [Option.eq_none_iff_forall_ne_some]
  constructor
  · intro hmissing domain hpair
    by_contra hall
    exact hmissing domain ((get?_ofPairs hp).mpr ⟨hpair, by simpa using hall⟩)
  · intro hall domain hgot
    obtain ⟨hpair, hdomain⟩ := (get?_ofPairs hp).mp hgot
    rw [hall domain hpair] at hdomain
    cases hdomain

/-- A statement of the gathered pairs is that of all pairs. -/
theorem scan_ofPairs (hp : ofPairs pairs = .ok p) (hq : make (pairs.map .ofPair) false = .ok q)
    (s : SqlStyle) (table : TableHandle) (columns : List Column) :
    s.scan table columns p = s.scan table columns q := by
  obtain ⟨hkept, hpnone⟩ := make_eq_ok.mp hp
  obtain ⟨hall, hqnone⟩ := make_eq_ok.mp hq
  have hentries : p.entries = q.entries.filter (!·.domain.isAll) := by
    rw [hkept, hall, List.filter_map]
    rfl
  exact s.scan_filter table columns hentries (hpnone.trans hqnone.symm)

/-- Pairs are gathered just if the columns that are constrained differ in name; otherwise the
repeated names are reported. What is left out is missed in no lookup and in no statement. -/
theorem ofPairs_drops (pairs : List (Column × Domain)) :
    let names := (constraining pairs).map (·.1.name)
    ((∃ p, ofPairs pairs = .ok p) ↔ names.Nodup) ∧
    (∀ fault, ofPairs pairs = .error fault →
      fault.names.Pairwise (· < ·) ∧ ∀ name, name ∈ fault.names ↔ 1 < names.count name) ∧
    ∀ p, ofPairs pairs = .ok p →
      p.entries.map (fun e => (e.column, e.domain)) = constraining pairs ∧
      (∀ column domain, p.get? column = some domain ↔
        (column, domain) ∈ pairs ∧ domain.isAll = false) ∧
      (∀ column, p.get? column = .none ↔
        ∀ domain, (column, domain) ∈ pairs → domain.isAll = true) ∧
      ∀ q, make (pairs.map .ofPair) false = .ok q →
        ∀ (s : SqlStyle) (table : TableHandle) (columns : List Column),
          s.scan table columns p = s.scan table columns q := by
  intro names
  have hnames : ((constraining pairs).map Constraint.ofPair).map (·.column.name) = names :=
    names_ofPair _
  rw [ofPairs_eq]
  refine ⟨?_, fun fault hfault => ?_, fun p hp => ?_⟩
  · rw [exists_make_eq_ok, hnames]
  · obtain ⟨-, rfl⟩ := make_eq_error.mp hfault
    rw [hnames]
    exact ⟨Text.sortedNames_pairwise _, fun name => mem_repeatedNames⟩
  · refine ⟨?_, fun column domain => get?_ofPairs hp, fun column => get?_ofPairs_eq_none hp,
      fun q hq => scan_ofPairs hp hq⟩
    rw [(make_eq_ok.mp hp).1, List.map_map]
    exact List.map_id _

/-- A column that is repeated in another type and left out once, the statements with and without the
columns left out, and two columns that are repeated. -/
theorem ofPairs_drops_repeated :
    let id : Column := ⟨"ID", .bigint⟩
    let word : Column := ⟨"ID", .varchar .none⟩
    let day : Column := ⟨"DAY", .date⟩
    let table : TableHandle := ⟨"c", ⟨"hr", "jobs", by decide, by decide⟩, .none, some "HR", "JOBS"⟩
    (∃ p, ofPairs [(id, .all), (word, .onlyNull)] = .ok p ∧ p.get? id = .none ∧
      p.get? word = some .onlyNull) ∧
    (∃ p q, ofPairs [(day, .all), (word, .onlyNull)] = .ok p ∧
      make [⟨day, .all⟩, ⟨word, .onlyNull⟩] false = .ok q ∧ p ≠ q ∧
      SqlStyle.scan ⟨.generic, "\""⟩ table [day] p = SqlStyle.scan ⟨.generic, "\""⟩ table [day] q) ∧
    ∃ fault, ofPairs [(id, .none), (day, .none), (word, .notNull), (day, .onlyNull)] =
      .error fault ∧ fault.names.Pairwise (· < ·) ∧ "ID" ∈ fault.names ∧ "DAY" ∈ fault.names := by
  intro id word day table
  refine ⟨?_, ?_, ?_⟩
  · obtain ⟨hok, -, hkept⟩ := ofPairs_drops [(id, .all), (word, .onlyNull)]
    obtain ⟨p, hp⟩ := hok.mpr (by decide)
    obtain ⟨-, hget, hmissing, -⟩ := hkept p hp
    refine ⟨p, hp, (hmissing id).mpr ?_, (hget word .onlyNull).mpr (by decide)⟩
    simp [id, word, Domain.isAll, Domain.all]
  · obtain ⟨hok, -, hkept⟩ := ofPairs_drops [(day, .all), (word, .onlyNull)]
    obtain ⟨p, hp⟩ := hok.mpr (by decide)
    obtain ⟨hentries, -, -, hscan⟩ := hkept p hp
    obtain ⟨q, hq⟩ : ∃ q, make [⟨day, .all⟩, ⟨word, .onlyNull⟩] false = .ok q :=
      exists_make_eq_ok.mpr (by decide)
    refine ⟨p, q, hp, hq, ?_, hscan q hq _ table [day]⟩
    rintro rfl
    rw [(make_eq_ok.mp hq).1] at hentries
    exact absurd hentries (by decide)
  · obtain ⟨hok, hfault, -⟩ :=
      ofPairs_drops [(id, .none), (day, .none), (word, .notNull), (day, .onlyNull)]
    cases h : ofPairs [(id, .none), (day, .none), (word, .notNull), (day, .onlyNull)] with
    | ok p => exact absurd (hok.mp ⟨p, h⟩) (by decide)
    | error fault =>
      obtain ⟨hsorted, hmem⟩ := hfault fault h
      exact ⟨fault, rfl, hsorted, (hmem "ID").mpr (by decide), (hmem "DAY").mpr (by decide)⟩

end Predicates
end Pushdown
