import Pushdown.Proofs.Opening
import Pushdown.Session

/-!
One scan of an Oracle database, from its first row to its end. A scan gives the first rows of its
result, and what its connection sees is the same sequence of calls up to where the scan stands.
-/
namespace Pushdown.Oracle

variable {τ : Type}

def Fate.ofStatus : Status → Fate
  | .more => .going
  | .ended => .ended
  | .failed e => .failed e

/-- A scan as its caller sees it: what it reads, the rows of its result once it has begun, and those
of them that it gave. -/
structure Progress (τ : Type) where
  split : Split
  columns : List Column
  result : List τ
  given : List τ
  fate : Fate
  deriving DecidableEq

namespace Progress

/-- A scan that has not begun; whatever result it is put down with, it is not read from. -/
def planned (split : Split) (columns : List Column) (result : List τ) : Progress τ :=
  ⟨split, columns, result, [], .going⟩

/-- The statement of the scan. -/
def statement (quote : String) (p : Progress τ) : Except LiteralFault String :=
  SqlStyle.scan ⟨dialect, quote⟩ p.split.table p.columns p.split.predicates

/-- What keeps a scan from beginning, whatever the database does: its statement or its address. -/
def ready (quote : String) (p : Progress τ) : Except Error Unit :=
  match p.statement quote, clientAddress p.split.endpoint.url with
  | .error fault, _ => .error (.literal fault)
  | .ok _, .error fault => .error (.address fault)
  | .ok _, .ok _ => .ok ()

/-- The rows that a scan reads: those that the database holds when the scan begins. -/
def source (rows : List τ) (p : Progress τ) : List τ := if p.given = [] then rows else p.result

/-- A scan that is not over after it gave some more rows of its result. -/
def advance (rows given : List τ) (fate : Fate) (p : Progress τ) : Progress τ :=
  if p.fate = .going
  then { p with result := p.source rows, given := p.given ++ given, fate := fate } else p

/-- A scan that is not over after it was left. -/
def leave (p : Progress τ) : Progress τ := if p.fate = .going then { p with fate := .left } else p

variable {p : Progress τ} {rows xs ys : List τ} {fate : Fate}

theorem advance_of_over (h : p.fate ≠ .going) : p.advance rows xs fate = p := if_neg h

theorem advance_advance (hx : xs ≠ []) :
    (p.advance rows xs .going).advance rows ys fate = p.advance rows (xs ++ ys) fate := by
  by_cases hgoing : p.fate = .going
  · simp [advance, hgoing, source, hx]
  · simp [advance, hgoing]

end Progress

/-- A scan with what the database saw while it was advanced and left. -/
structure Scan (τ : Type) extends Progress τ where
  events : List Event

namespace Scan

variable {config : Config} {e : Engine τ} {k : Connection} {j j' : Journal Event}

def planned (split : Split) (columns : List Column) (result : List τ) : Scan τ :=
  ⟨.planned split columns result, []⟩

def advance (rows given : List τ) (fate : Fate) (seen : List Event) (scan : Scan τ) : Scan τ :=
  ⟨scan.toProgress.advance rows given fate, scan.events ++ seen⟩

def leave (seen : List Event) (scan : Scan τ) : Scan τ :=
  ⟨scan.toProgress.leave, scan.events ++ seen⟩

/-- What is true of every scan. -/
structure Lawful (config : Config) (scan : Scan τ) : Prop where
  given : scan.given <+: scan.result
  ended : scan.fate = .ended → scan.given = scan.result
  trail : scan.events = [] ∧ scan.given = [] ∧ scan.fate ≠ .ended ∨
    ∃ sql n, scan.statement config.identifierQuote = .ok sql ∧
      Trail sql config.fetchSize n scan.fate scan.events

/-- The scan has begun, and the cursor stands where the scan does. -/
structure Reads (config : Config) (k : Connection) (batch : List τ) (left : Result τ)
    (scan : Scan τ) : Prop where
  going : scan.fate = .going
  size : k.fetchSize = config.fetchSize
  trail : ∃ sql, scan.statement config.identifierQuote = .ok sql ∧
    Trail sql config.fetchSize k.engine .going scan.events
  rest : scan.given ++ (batch ++ left.rest) = scan.result

/-- The cursor stands where the scan does. -/
inductive Tracks (config : Config) : Cursor Connection (Rows τ) → Scan τ → Prop
  | planned {split columns result} :
    Tracks config (.planned split columns) (.planned split columns result)
  | scanning {k batch left scan} (reads : Reads config k batch left scan)
    (begun : scan.given ≠ []) : Tracks config (.scanning k (.reading k batch left)) scan
  | finished {scan} (hover : scan.fate ≠ .going) (lawful : Lawful config scan) :
    Tracks config .finished scan

theorem Tracks.lawful {cursor : Cursor Connection (Rows τ)} {scan : Scan τ}
    (h : Tracks config cursor scan) : Lawful config scan := by
  cases h with
  | planned => exact ⟨List.nil_prefix, fun h => (by cases h), .inl ⟨rfl, rfl, fun h => (by cases h)⟩⟩
  | scanning reads begun =>
    obtain ⟨sql, hsql, htrail⟩ := reads.trail
    exact ⟨⟨_, reads.rest⟩, by simp [reads.going], .inr ⟨sql, _, hsql, reads.going ▸ htrail⟩⟩
  | finished hover lawful => exact lawful

end Scan

variable {config : Config} {e : Engine τ} {k : Connection} {j j' : Journal Event}

/-- An answer to a call for the next row, as the reader of many rows takes it. -/
def turn (x : Except Error (Option (τ × Cursor Connection (Rows τ)))) :
    List τ × Status × Cursor Connection (Rows τ) :=
  match x with
  | .ok (some (row, cursor)) => ([row], .more, cursor)
  | .ok none => ([], .ended, .finished)
  | .error error => ([], .failed error, .finished)

/-- A scan that has no next row closes its connection. -/
theorem scanNext_cases {rows : Rows τ}
    {x : Except Error (Option (τ × Cursor Connection (Rows τ)))}
    (h : ((connector config e).scanNext k rows).outcome j = (x, j')) :
    (∃ row rest, (e.library.next rows).outcome j = (.ok (some (row, rest)), j') ∧
      x = .ok (some (row, .scanning k rest))) ∨
    ∃ y j₁, (e.library.next rows).outcome j = (y, j₁) ∧ Sees (closing k.engine) j₁ j' ∧
      (y = .ok none ∧ (x = .ok none ∨ ∃ error, x = .error error ∧ ¬e.Healthy) ∨
        ∃ error error', y = .error error ∧ x = .error error') := by
  unfold Connector.scanNext at h
  simp only [connector_client, client_next, client_close] at h
  rcases hn : (Run.onFailure (e.library.next rows) (e.library.closeConnection k)).outcome j with
    ⟨error | _ | ⟨row, rest⟩, j₁⟩
  · rw [Run.outcome_bind_of_error hn] at h
    cases h
    obtain ⟨error', j₂, hnext, hj⟩ := Run.exists_of_onFailure_eq_error hn
    rcases hc : (e.library.closeConnection k).outcome j₂ with ⟨x, j₃⟩
    rw [hc] at hj
    obtain rfl := hj
    exact .inr ⟨_, j₂, hnext, Engine.closeConnection_sees hc, .inr ⟨error', error, rfl, rfl⟩⟩
  · rw [Run.outcome_bind_of_ok hn] at h
    have hnext := Run.onFailure_eq_ok.mp hn
    rcases hc : (e.library.closeConnection k).outcome j₁ with ⟨error | _, j₂⟩
    · simp only [Run.outcome_bind_of_error hc] at h
      cases h
      exact .inr ⟨_, j₁, hnext, Engine.closeConnection_sees hc,
        .inl ⟨rfl, .inr ⟨error, rfl, Engine.not_healthy_of_closeConnection hc⟩⟩⟩
    · simp only [Run.outcome_bind_of_ok hc] at h
      cases h
      exact .inr ⟨_, j₁, hnext, Engine.closeConnection_sees hc, .inl ⟨rfl, .inl rfl⟩⟩
  · rw [Run.outcome_bind_of_ok hn] at h
    cases h
    exact .inl ⟨row, rest, Run.onFailure_eq_ok.mp hn, rfl⟩

namespace Scan

variable {scan : Scan τ}

theorem advance_of_going {rows given : List τ} {fate : Fate} {seen : List Event}
    (h : scan.fate = .going) : scan.advance rows given fate seen =
      ⟨⟨scan.split, scan.columns, scan.source rows, scan.given ++ given, fate⟩,
        scan.events ++ seen⟩ := by
  simp [advance, Progress.advance, h]

theorem advance_advance {rows xs ys : List τ} {fate : Fate} {seen₁ seen₂ : List Event}
    (hx : xs ≠ []) : (scan.advance rows xs .going seen₁).advance rows ys fate seen₂ =
      scan.advance rows (xs ++ ys) fate (seen₁ ++ seen₂) := by
  simp only [advance, Progress.advance_advance hx, List.append_assoc]

/-- A scan whose cursor is open is over once its result and its connection were closed. -/
theorem Reads.finish {batch : List τ} {left : Result τ} (hr : Reads config k batch left scan)
    (hsource : scan.source e.rows = scan.result) {fate : Fate} (hfate : fate ≠ .going)
    (hended : fate = .ended → batch ++ left.rest = []) :
    Tracks config .finished (scan.advance e.rows [] fate
      ([.fetch k.engine k.fetchSize, .closeResult k.engine] ++ closing k.engine)) := by
  obtain ⟨sql, hsql, htrail⟩ := hr.trail
  rw [advance_of_going hr.going, hsource, List.append_nil]
  refine .finished hfate ⟨⟨_, hr.rest⟩, ?_, .inr ⟨sql, k.engine, hsql, ?_⟩⟩
  · intro h
    have hrest := hr.rest
    rwa [hended h, List.append_nil] at hrest
  · rw [hr.size]
    exact htrail.close hfate 1

/-- A scan whose cursor is open gives the next row, ends with its result, or fails; the cursor stands
where the scan does afterwards. -/
theorem Reads.next {batch : List τ} {left : Result τ} (hr : Reads config k batch left scan)
    (hsource : scan.source e.rows = scan.result)
    {x : Except Error (Option (τ × Cursor Connection (Rows τ)))}
    (h : ((connector config e).scanNext k (.reading k batch left)).outcome j = (x, j')) :
    ∃ seen, Sees seen j j' ∧
      Tracks config (turn x).2.2
        (scan.advance e.rows (turn x).1 (.ofStatus (turn x).2.1) seen) ∧
      ∀ error, x = .error error → ¬e.Healthy := by
  obtain ⟨sql, hsql, htrail⟩ := hr.trail
  have hpos : 0 < k.fetchSize := by
    have := config.fetchSize_pos
    rw [hr.size]
    omega
  rcases scanNext_cases h with ⟨row, rest, hn, rfl⟩ | ⟨y, j₁, hn, hclosing, hx⟩
  · rcases Engine.next_cases hpos hn with
      ⟨row', batch', left', batches, hrest, hrow, hsees⟩ | ⟨-, ⟨hnone, -⟩ | ⟨_, herror, -⟩⟩
    · cases hrow
      refine ⟨_, hsees, ?_, by simp⟩
      rw [turn, advance_of_going hr.going, hsource]
      refine .scanning ⟨rfl, hr.size, ⟨sql, hsql, ?_⟩, ?_⟩ (by simp)
      · rw [hr.size]
        exact htrail.fetch batches
      · rw [← hr.rest, hrest]
        simp
    · cases hnone
    · cases herror
  · rcases Engine.next_cases hpos hn with
      ⟨row, batch', left', batches, -, hrow, -⟩ | ⟨hsees, ⟨hnone, hrest⟩ | ⟨error, herror, hsick⟩⟩
    · rcases hx with ⟨hy, -⟩ | ⟨_, _, hy, -⟩ <;> rw [hy] at hrow <;> cases hrow
    · rcases hx with ⟨-, rfl | ⟨error, rfl, hsick⟩⟩ | ⟨_, _, hy, -⟩
      · exact ⟨_, hsees.trans hclosing, hr.finish hsource (by simp [Fate.ofStatus, turn])
          fun _ => hrest, by simp⟩
      · exact ⟨_, hsees.trans hclosing, hr.finish hsource (by simp [Fate.ofStatus, turn])
          fun _ => hrest, fun _ _ => hsick⟩
      · rw [hy] at hnone
        cases hnone
    · rcases hx with ⟨hy, -⟩ | ⟨_, error, hy, rfl⟩
      · rw [hy] at herror
        cases herror
      · exact ⟨_, hsees.trans hclosing, hr.finish hsource (by simp [Fate.ofStatus, turn])
          (by simp [Fate.ofStatus, turn]), fun _ _ => hsick⟩

end Scan

theorem buildSql_outcome (split : Split) (columns : List Column) (result : List τ)
    (j : Journal Event) :
    ((connector config e).buildSql split.table columns split.predicates).outcome j =
      match (Progress.planned split columns result).statement config.identifierQuote with
      | .error fault => (.error (.literal fault), j)
      | .ok sql => (.ok sql, { j with notes := j.notes ++ [.scanBuilt split.table sql] }) := by
  unfold Connector.buildSql Progress.statement Progress.planned
  rw [connector_style]
  cases SqlStyle.scan ⟨dialect, config.identifierQuote⟩ split.table columns split.predicates <;> rfl

/-- A statement that has been run goes on as one whose result was not read from yet. -/
theorem scanNext_waiting {sql : String} {left : Result τ} {j₁ : Journal Event}
    (h : (e.run k.engine sql).outcome j = (.ok (some left), j₁)) :
    ((connector config e).scanNext k (.waiting k sql)).outcome j =
      ((connector config e).scanNext k (.reading k [] left)).outcome j₁ := by
  have hnext : (e.library.next (.waiting k sql)).outcome j = (e.library.next (.reading k [] left)).outcome j₁ :=
    Run.outcome_bind_of_ok h
  unfold Connector.scanNext
  simp only [connector_client, client_next, Run.outcome_bind, Run.onFailure,
    Run.outcome_ofOutcome, hnext]

/-- The database saw something for a scan; for one that had not begun, on a new engine. -/
structure Adds (scan : Scan τ) (seen : List Event) (j j' : Journal Event) : Prop where
  events : j'.events = j.events ++ seen
  numbered : j.numbered ≤ j'.numbered
  fresh : scan.events = [] → ∀ event ∈ seen, event.engine = j.numbered + 1 ∧
    event.engine ≤ j'.numbered

namespace Scan

variable {cursor : Cursor Connection (Rows τ)}
  {x : Except Error (Option (τ × Cursor Connection (Rows τ)))}

/-- A call for the next row took the scan and its cursor from where they stood to where they stand
now. -/
def Turns (config : Config) (e : Engine τ) (scan : Scan τ)
    (x : Except Error (Option (τ × Cursor Connection (Rows τ)))) (j j' : Journal Event) : Prop :=
  ∃ seen, Adds scan seen j j' ∧
    Tracks config (turn x).2.2
      (scan.advance e.rows (turn x).1 (.ofStatus (turn x).2.1) seen) ∧
    (e.Healthy → ReadsSize config → ∀ error, x = .error error ↔
      scan.given = [] ∧ scan.ready config.identifierQuote = .error error)

/-- A scan that could not begin is over, with what was seen of it. -/
theorem turns_of_error {split : Split} {columns : List Column} {result : List τ} {seen : List Event}
    {error : Error} (hadds : Adds (planned split columns result) seen j j')
    (hseen : seen = [] ∨ ∃ sql n,
      (Progress.planned split columns result).statement config.identifierQuote = .ok sql ∧
        Trail sql config.fetchSize n (.failed error) seen)
    (hready : e.Healthy → ReadsSize config →
      (Progress.planned split columns result).ready config.identifierQuote = .error error) :
    Turns config e (planned split columns result) (.error error) j j' := by
  have hfailed : Fate.ofStatus (.failed error) = .failed error := rfl
  refine ⟨seen, hadds, ?_, fun hh hs error' => ?_⟩
  · rw [advance_of_going rfl, turn, hfailed]
    refine .finished (by simp) ⟨List.nil_prefix, by simp, ?_⟩
    rcases hseen with rfl | ⟨sql, n, hsql, htrail⟩
    · exact .inl ⟨rfl, rfl, by simp⟩
    · exact .inr ⟨sql, n, hsql, htrail⟩
  · have hready := hready hh hs
    simp only [planned, hready, Except.error.injEq]
    exact ⟨fun h => ⟨rfl, h⟩, fun h => h.2⟩

/-- Everything that was seen of a scan is about the engine of the first of it. -/
theorem fresh_of_trail {sql : String} {size : Int} {fate : Fate} {seen : List Event} {n : Nat}
    (h : Trail sql size n fate seen) (hn : n = j.numbered + 1) (hj : n ≤ j'.numbered) :
    ∀ event ∈ seen, event.engine = j.numbered + 1 ∧ event.engine ≤ j'.numbered := by
  intro event hevent
  rw [h.engine event hevent]
  exact ⟨hn, hj⟩

/-- A scan with a connection runs its statement and gives the first row of the result. -/
theorem connected_turns {split : Split} {columns : List Column} {result : List τ} {sql : String}
    (hs : (Progress.planned split columns result).statement config.identifierQuote = .ok sql)
    (ha : ∃ address, clientAddress split.endpoint.url = .ok address) {j₁ : Journal Event}
    {address : String} {arguments : Properties} (hk : k.engine = j.numbered + 1)
    (hsize : k.fetchSize = config.fetchSize) (hn : j₁.numbered = j.numbered + 1)
    (hevents : j₁.events = j.events ++ (opening k.engine address config.fetchSize arguments ++
      [.statement k.engine readOnlyStatement]))
    (h : ((connector config e).scanNext k (.waiting k sql)).outcome j₁ = (x, j')) :
    Turns config e (planned split columns result) x j j' := by
  rcases hr : (e.run k.engine sql).outcome j₁ with ⟨y, j₂⟩
  obtain ⟨hselect, hy⟩ := Engine.run_cases hr
  rw [Engine.not_isSetup_of_scan hs] at hy
  have hseen : j₂.events = j.events ++ (opening k.engine address config.fetchSize arguments ++
      statements k.engine sql) := by
    simpa [statements] using hselect.fresh hevents
  have hj₂ : j₂.numbered = k.engine := by rw [hselect.2, hn, hk]
  rcases hy with rfl | ⟨error, rfl, hsick⟩
  · rw [if_neg (by simp)] at hr
    rw [scanNext_waiting hr] at h
    have hreads : Reads config k [] ⟨e.rows, 0⟩
        ⟨.planned split columns e.rows, opening k.engine address config.fetchSize arguments ++
          statements k.engine sql⟩ := by
      refine ⟨rfl, hsize, ⟨sql, hs, ?_⟩, rfl⟩
      simpa using Trail.reading 0
    obtain ⟨seen, hsees, htracks, hsick⟩ := hreads.next rfl h
    have hj' : k.engine ≤ j'.numbered := by rw [hsees.2, hj₂]
    refine ⟨_, ⟨hsees.fresh hseen, by omega, fun _ => ?_⟩, htracks, fun hh _ error => ?_⟩
    · rcases htracks.lawful.trail with ⟨hnil, -⟩ | ⟨_, n, -, htrail⟩
      · simp [advance, opening] at hnil
      -- The first that was seen is the making of the engine.
      have hfirst : (Event.create k.engine address config.fetchSize arguments).engine = n :=
        htrail.engine _ (by simp [advance, opening])
      exact fresh_of_trail htrail (hfirst.symm.trans hk) (hfirst.symm.trans_le hj')
    · have hready : (planned split columns result).ready config.identifierQuote = .ok () := by
        obtain ⟨address, ha⟩ := ha
        simp only [planned, Progress.ready, hs]
        simp only [Progress.planned, ha]
      rw [hready]
      simp only [reduceCtorEq, and_false, iff_false]
      exact fun hx => hsick error hx hh
  · have hnext : (e.library.next (.waiting k sql)).outcome j₁ = (.error error, j₂) :=
      Run.outcome_bind_of_error hr
    rcases scanNext_cases h with ⟨row, rest, hrow, -⟩ | ⟨y, j₃, hy, hclosing, hx⟩
    · cases hrow.symm.trans hnext
    cases hy.symm.trans hnext
    rcases hx with ⟨hnone, -⟩ | ⟨_, error', -, rfl⟩
    · cases hnone
    have htrail : Trail sql config.fetchSize k.engine (.failed error')
        (opening k.engine address config.fetchSize arguments ++ statements k.engine sql ++
          closing k.engine) := .refused
    have hj' : k.engine ≤ j'.numbered := by rw [hclosing.2, hj₂]
    exact turns_of_error
      ⟨hclosing.fresh hseen, by omega, fun _ => fresh_of_trail htrail hk hj'⟩
      (.inr ⟨sql, _, hs, htrail⟩) fun hh => absurd hh hsick

theorem planned_turns {split : Split} {columns : List Column} {result : List τ}
    (h : ((connector config e).next (.planned split columns)).outcome j = (x, j')) :
    Turns config e (planned split columns result) x j j' := by
  have hbuild := @buildSql_outcome τ config e split columns result j
  unfold Connector.next at h
  dsimp only at h
  rcases hs : (Progress.planned split columns result).statement config.identifierQuote with fault | sql
  · simp only [hs] at hbuild
    rw [Run.outcome_bind_of_error hbuild] at h
    cases h
    refine turns_of_error ⟨by simp, le_rfl, by simp⟩ (.inl rfl) fun _ _ => ?_
    rw [Progress.ready, hs]
  simp only [hs] at hbuild
  rw [Run.outcome_bind_of_ok hbuild] at h
  rcases ho : ((connector config e).openConnection split.endpoint).outcome
    { j with notes := j.notes ++ [.scanBuilt split.table sql] } with ⟨y, j₁⟩
  rcases openConnection_cases ho with ⟨error, rfl, hsees, hfault⟩ | ⟨hn, ha, hopen⟩
  · rw [Run.outcome_bind_of_error ho] at h
    cases h
    refine turns_of_error ⟨hsees.1, hsees.2.ge, by simp⟩ (.inl rfl) fun _ hshort => ?_
    obtain ⟨fault, ha, rfl⟩ := hfault hshort
    rw [Progress.ready, hs]
    simp only [Progress.planned, ha]
  have hn : j₁.numbered = j.numbered + 1 := hn
  rcases hopen with ⟨error, seen, rfl, hsick, hevents, htrail⟩ |
    ⟨k, address, arguments, rfl, hk, hsize, hevents⟩
  · rw [Run.outcome_bind_of_error ho] at h
    cases h
    exact turns_of_error ⟨hevents, by omega, fun _ => fresh_of_trail (htrail sql) rfl hn.ge⟩
      (.inr ⟨sql, _, hs, htrail sql⟩) fun hh => absurd hh hsick
  · rw [Run.outcome_bind_of_ok ho] at h
    exact connected_turns hs ha hk hsize hn hevents h

/-- Each call for a row takes a scan that is going on and its cursor along together. -/
theorem Tracks.turns (ht : Tracks config cursor scan) (hgoing : scan.fate = .going)
    (h : ((connector config e).next cursor).outcome j = (x, j')) : Turns config e scan x j j' := by
  cases ht with
  | planned => exact planned_turns h
  | finished hover lawful => exact absurd hgoing hover
  | scanning reads begun =>
    obtain ⟨seen, hsees, htracks, hsick⟩ := reads.next (if_neg begun) h
    obtain ⟨sql, -, htrail⟩ := reads.trail
    refine ⟨seen, ⟨hsees.1, hsees.2.ge, fun hnil => absurd hnil htrail.ne_nil⟩, htracks, ?_⟩
    intro hh _ error
    exact ⟨fun hx => absurd hh (hsick error hx), fun hready => absurd hready.1 begun⟩

theorem Tracks.advance_nil (ht : Tracks config cursor scan) (hgoing : scan.fate = .going) :
    Tracks config cursor (scan.advance e.rows [] .going []) := by
  rw [advance_of_going hgoing, List.append_nil, List.append_nil]
  cases ht with
  | planned => exact .planned
  | finished hover lawful => exact absurd hgoing hover
  | scanning reads begun =>
    have hsource : scan.source e.rows = scan.result := if_neg begun
    rw [hsource, ← hgoing]
    exact .scanning reads begun

/-- What was seen of a scan is about one engine. -/
theorem Lawful.same_engine (h : Lawful config scan) {a b : Event} (ha : a ∈ scan.events)
    (hb : b ∈ scan.events) : a.engine = b.engine := by
  rcases h.trail with ⟨hnil, -⟩ | ⟨sql, n, -, htrail⟩
  · simp [hnil] at ha
  · rw [htrail.engine a ha, htrail.engine b hb]

theorem Lawful.events_ne_nil (h : Lawful config scan) (hgiven : scan.given ≠ []) :
    scan.events ≠ [] := by
  rcases h.trail with ⟨-, hnil, -⟩ | ⟨sql, n, -, htrail⟩
  · exact absurd hnil hgiven
  · exact htrail.ne_nil

end Scan
end Pushdown.Oracle
