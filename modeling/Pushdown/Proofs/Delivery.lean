import Pushdown.Proofs.Interleaving

/-!
What scans deliver. If no call fails, each scan gives the rows that it is asked for as long as there
are any, in the order of its result; how many are fetched at once makes no difference.
-/
namespace Pushdown.Oracle

variable {τ : Type} {config : Config} {e : Engine τ} {j j' : Journal Event}

namespace Progress

variable {p : Progress τ} {rows : List τ} {quote : String} {count : Nat}

/-- The rows that a scan has not given yet. -/
def remaining (rows : List τ) (p : Progress τ) : List τ := (p.source rows).drop p.given.length

/-- What a scan makes of being asked for some rows: it gives the next ones, and is over if these are
fewer. One that cannot begin fails instead. -/
def expected (quote : String) (rows : List τ) (count : Nat) (p : Progress τ) : Progress τ :=
  match if p.given = [] ∧ count ≠ 0 then p.ready quote else .ok () with
  | .error fault => p.advance rows [] (.failed fault)
  | .ok () => p.advance rows ((p.remaining rows).take count)
      (if count ≤ (p.remaining rows).length then .going else .ended)

theorem expected_of_over (h : p.fate ≠ .going) : p.expected quote rows count = p := by
  unfold expected
  split <;> exact advance_of_over h

theorem expected_of_error {fault : Error} (hgiven : p.given = []) (hcount : count ≠ 0)
    (h : p.ready quote = .error fault) :
    p.expected quote rows count = p.advance rows [] (.failed fault) := by
  rw [expected, if_pos ⟨hgiven, hcount⟩, h]

theorem expected_of_ready (h : p.given = [] → count ≠ 0 → p.ready quote = .ok ()) :
    p.expected quote rows count = p.advance rows ((p.remaining rows).take count)
      (if count ≤ (p.remaining rows).length then .going else .ended) := by
  have hbegins : (if p.given = [] ∧ count ≠ 0 then p.ready quote else .ok ()) = .ok () := by
    split_ifs with hbegin
    · exact h hbegin.1 hbegin.2
    · rfl
  rw [expected, hbegins]

/-- What becomes of scans that are asked for rows one after the other. -/
def stepAll (quote : String) (ps : List (Progress τ)) (rows : List τ) :
    ScanCommand → List (Progress τ)
  | .scan split columns => ps ++ [.planned split columns []]
  | .advance number count => ps.modify number (·.expected quote rows count)
  | .stop number => ps.modify number .leave

def runAll (quote : String) (ps : List (Progress τ)) :
    List (Engine τ × ScanCommand) → List (Progress τ)
  | [] => ps
  | (e, command) :: rest => runAll quote (stepAll quote ps e.rows command) rest

end Progress

namespace Scan

variable {scan : Scan τ} {all rows : List τ} {fate : Fate} {seen : List Event}

theorem Lawful.prefix_remaining (h : Lawful config (scan.advance all rows fate seen))
    (hgoing : scan.fate = .going) : rows <+: scan.remaining all := by
  rw [advance_of_going hgoing] at h
  obtain ⟨rest, hrest⟩ := h.given
  have hsource : scan.source all = scan.given ++ (rows ++ rest) := by
    rw [← List.append_assoc]
    exact hrest.symm
  rw [Progress.remaining, hsource, List.drop_left]
  exact List.prefix_append rows rest

theorem Lawful.remaining_eq (h : Lawful config (scan.advance all rows .ended seen))
    (hgoing : scan.fate = .going) : scan.remaining all = rows := by
  rw [advance_of_going hgoing] at h
  have hended : scan.given ++ rows = scan.source all := h.ended rfl
  rw [Progress.remaining, ← hended, List.drop_left]

/-- Without a failing call a scan does what is expected of it. -/
theorem Tracks.expected {cursor cursor' : Cursor Connection (Rows τ)}
    (ht : Tracks config cursor scan) (hh : e.Healthy) (hs : ReadsSize config) {count : Nat}
    {status : Status}
    (h : Session.read (connector config e) count cursor j = ((rows, status, cursor'), j')) :
    scan.toProgress.advance e.rows rows (.ofStatus status) =
      scan.toProgress.expected config.identifierQuote e.rows count := by
  by_cases hgoing : scan.fate = .going
  case neg => rw [Progress.advance_of_over hgoing, Progress.expected_of_over hgoing]
  obtain ⟨seen, -, htracks, hready⟩ := ht.read hgoing h
  have hready := hready hh hs
  have hlength := Session.length_read h
  have hlawful := htracks.lawful
  have hbegins : (∀ error, status ≠ .failed error) → scan.given = [] → count ≠ 0 →
      scan.ready config.identifierQuote = .ok () := by
    intro hstatus hgiven hcount
    cases hr : scan.ready config.identifierQuote with
    | ok => rfl
    | error error => exact absurd ((hready hcount error).1.mpr ⟨hgiven, hr⟩) (hstatus error)
  cases status with
  | more =>
    have hprefix := hlawful.prefix_remaining hgoing
    rw [if_pos rfl] at hlength
    rw [Progress.expected_of_ready (hbegins (by simp)), ← hlength,
      ← List.prefix_iff_eq_take.mp hprefix, if_pos hprefix.length_le]
    rfl
  | ended =>
    have hall : scan.remaining e.rows = rows := Lawful.remaining_eq hlawful hgoing
    rw [if_neg (by simp)] at hlength
    rw [Progress.expected_of_ready (hbegins (by simp)), hall, List.take_of_length_le hlength.le,
      if_neg (by omega)]
    rfl
  | failed error =>
    rw [if_neg (by simp)] at hlength
    have hcount : count ≠ 0 := by omega
    obtain ⟨hiff, hnil⟩ := hready hcount error
    obtain ⟨hgiven, hr⟩ := hiff.mp rfl
    rw [Progress.expected_of_error hgiven hcount hr, hnil rfl]
    rfl

end Scan

theorem map_modify {α β : Type} {f : α → β} {g : α → α} {g' : β → β} {xs : List α} {i : Nat}
    (h : ∀ x, xs[i]? = some x → f (g x) = g' (f x)) :
    (xs.modify i g).map f = (xs.map f).modify i g' := by
  refine List.ext_getElem? fun k => ?_
  by_cases hk : i = k
  · subst hk
    cases hx : xs[i]? with
    | none => simp [hx]
    | some x => simp [hx, h x hx]
  · simp [hk]

theorem forall_modify {α : Type} {p : α → Prop} {f : α → α} {xs : List α} (i : Nat)
    (h : ∀ x ∈ xs, p x) (hf : ∀ x, p x → p (f x)) : ∀ x ∈ xs.modify i f, p x := by
  intro x hx
  obtain ⟨k, hk⟩ := List.getElem?_of_mem hx
  rw [List.getElem?_modify] at hk
  obtain ⟨y, hy, rfl⟩ := Option.map_eq_some_iff.mp hk
  have hy := h y (List.mem_of_getElem? hy)
  split_ifs
  · exact hf y hy
  · exact hy

namespace Watch

variable {s : Watch τ}

/-- The scans as their callers see them. -/
def progress (s : Watch τ) : List (Progress τ) := s.scans.map (·.toProgress)

/-- Without a failing call a command makes of the scans what is expected. -/
theorem step_progress (h : s.Follows config) (hh : e.Healthy) (hs : ReadsSize config)
    (command : ScanCommand) : (step config s e command).progress =
      Progress.stepAll config.identifierQuote s.progress e.rows command := by
  cases command with
  | scan split columns => exact List.map_append
  | stop number =>
    obtain ⟨x, j', -, hstep⟩ := step_stop config s e number
    rw [hstep]
    exact map_modify fun _ _ => rfl
  | advance number count =>
    obtain ⟨rows, status, cursor', j', hr, hstep⟩ := step_advance config s e number count
    rw [hstep]
    refine map_modify fun scan hscan => ?_
    obtain ⟨hn, rfl⟩ := List.getElem?_eq_some_iff.mp hscan
    have hcursor := List.getElem?_eq_getElem
      (h.tracks.length_eq ▸ hn : number < s.session.cursors.length)
    rw [List.getD_eq_getElem?_getD, hcursor, Option.getD_some] at hr
    exact (rel_of_forall₂ h.tracks hcursor hscan).expected hh hs hr

theorem run_progress (h : s.Follows config) (hs : ReadsSize config)
    (commands : List (Engine τ × ScanCommand)) (hh : ∀ x ∈ commands, x.1.Healthy) :
    (run config s commands).progress =
      Progress.runAll config.identifierQuote s.progress commands := by
  induction commands generalizing s with
  | nil => rfl
  | cons first rest ih =>
    rw [run, Progress.runAll, ← step_progress h (hh first (by simp)) hs]
    exact ih (step_follows h first.1 first.2) fun x hx => hh x (by simp [hx])

/-- The scan has not begun, or what it reads is a result of some kind. -/
def Reading (kind : List τ → Prop) (scan : Scan τ) : Prop :=
  scan.given ≠ [] ∨ scan.fate = .ended → kind scan.result

theorem Reading.advance {kind : List τ → Prop} {scan : Scan τ} (h : Reading kind scan)
    {rows given : List τ} (hrows : kind rows) (fate : Fate) (seen : List Event) :
    Reading kind (scan.advance rows given fate seen) := by
  intro hread
  by_cases hgoing : scan.fate = .going
  · rw [Scan.advance_of_going hgoing]
    change kind (scan.source rows)
    by_cases hgiven : scan.given = []
    · rwa [Progress.source, if_pos hgiven]
    · rw [Progress.source, if_neg hgiven]
      exact h (.inl hgiven)
  · rw [Scan.advance, Progress.advance_of_over hgoing] at hread ⊢
    exact h hread

theorem Reading.leave {kind : List τ → Prop} {scan : Scan τ} (h : Reading kind scan)
    (seen : List Event) : Reading kind (scan.leave seen) := by
  unfold Reading Scan.leave Progress.leave
  split_ifs
  · exact fun hread => h (.inl (hread.resolve_right (by simp)))
  · exact h

/-- What scans read are results that the database has had. -/
theorem run_reading {kind : List τ → Prop} (h : ∀ scan ∈ s.scans, Reading kind scan)
    (commands : List (Engine τ × ScanCommand)) (hk : ∀ x ∈ commands, kind x.1.rows) :
    ∀ scan ∈ (run config s commands).scans, Reading kind scan := by
  induction commands generalizing s with
  | nil => exact h
  | cons first rest ih =>
    obtain ⟨e, command⟩ := first
    have hrows : kind e.rows := hk (e, command) (by simp)
    refine ih ?_ fun x hx => hk x (by simp [hx])
    cases command with
    | scan split columns =>
      refine List.forall_mem_append.mpr ⟨h, ?_⟩
      simp [Reading, Scan.planned, Progress.planned]
    | advance number count =>
      obtain ⟨rows, status, cursor', j', -, hstep⟩ := step_advance config s e number count
      rw [hstep]
      exact forall_modify number h fun scan hscan => hscan.advance hrows _ _
    | stop number =>
      obtain ⟨x, j', -, hstep⟩ := step_stop config s e number
      rw [hstep]
      exact forall_modify number h fun scan hscan => hscan.leave _

/-- A scan that is asked for more rows than it has left is over then. -/
theorem Follows.finishes (h : s.Follows config) (e : Engine τ) {number count : Nat} {scan : Scan τ}
    (hscan : s.scans[number]? = some scan) (hcount : (scan.remaining e.rows).length < count) :
    ∃ last, (step config s e (.advance number count)).scans[number]? = some last ∧
      last.fate ≠ .going := by
  have hfollows := step_follows h e (.advance number count)
  obtain ⟨rows, status, cursor', j', hr, hstep⟩ := step_advance config s e number count
  have hget : (step config s e (.advance number count)).scans[number]? =
      some (scan.advance e.rows rows (.ofStatus status)
        (j'.events.drop s.session.journal.events.length)) := by
    rw [hstep]
    simp [hscan]
  have hlawful := hfollows.lawful _ (List.mem_of_getElem? hget)
  refine ⟨_, hget, fun hmore => ?_⟩
  by_cases hgoing : scan.fate = .going
  · rw [Scan.advance_of_going hgoing] at hmore hlawful
    have hstatus : status = .more := by
      cases status <;> simp [Fate.ofStatus] at hmore ⊢
    have hlength := Session.length_read hr
    rw [if_pos hstatus] at hlength
    have hle := hlawful.given.length_le
    simp only [Progress.remaining, List.length_drop, List.length_append] at hcount hle
    omega
  · rw [Scan.advance, Progress.advance_of_over hgoing] at hmore
    exact hgoing hmore

/-- What can be relied on about the scans of a connector, whichever calls fail. A scan gives the
first rows of its result, all of them if it came to the end; it comes to the end, or fails, when it
is asked for more. Its engine sees the calls of a trail, and no other calls; a scan that has no
engine has given nothing and did not come to an end, and one without a statement has none. -/
structure Faithful (config : Config) (s : Watch τ) : Prop where
  given : ∀ scan ∈ s.scans, scan.given <+: scan.result
  ended : ∀ scan ∈ s.scans, scan.fate = .ended → scan.given = scan.result
  finishes : ∀ (e : Engine τ) number count (scan : Scan τ), s.scans[number]? = some scan →
    (scan.remaining e.rows).length < count →
      ∃ last, (step config s e (.advance number count)).scans[number]? = some last ∧
        last.fate ≠ .going
  trail : ∀ scan ∈ s.scans, (scan.events = [] ∧ scan.given = [] ∧ scan.fate ≠ .ended) ∨
    ∃ sql n, scan.statement config.identifierQuote = .ok sql ∧
      Trail sql config.fetchSize n scan.fate scan.events ∧
      s.session.journal.events.filter (·.engine = n) = scan.events
  refused : ∀ scan ∈ s.scans, ∀ fault, scan.statement config.identifierQuote = .error fault →
    scan.events = []
  distinct : ∀ (i k : Nat) (a b : Scan τ) n, s.scans[i]? = some a → s.scans[k]? = some b →
    a.On n → b.On n → i = k
  whole : ∀ event ∈ s.session.journal.events, ∃ scan ∈ s.scans, event ∈ scan.events

theorem Follows.faithful (h : s.Follows config) : s.Faithful config := by
  have htrail : ∀ scan ∈ s.scans, (scan.events = [] ∧ scan.given = [] ∧ scan.fate ≠ .ended) ∨
      ∃ sql n, scan.statement config.identifierQuote = .ok sql ∧
        Trail sql config.fetchSize n scan.fate scan.events ∧
        s.session.journal.events.filter (·.engine = n) = scan.events := by
    intro scan hscan
    rcases (h.lawful scan hscan).trail with hidle | ⟨sql, n, hsql, htrail⟩
    · exact .inl hidle
    obtain ⟨i, hi⟩ := List.getElem?_of_mem hscan
    obtain ⟨event, hevent⟩ := List.exists_mem_of_ne_nil _ htrail.ne_nil
    exact .inr ⟨sql, n, hsql, htrail,
      h.apart.own i scan n hi ⟨event, hevent, htrail.engine event hevent⟩⟩
  refine ⟨fun scan hscan => (h.lawful scan hscan).given,
    fun scan hscan => (h.lawful scan hscan).ended,
    fun e _ _ _ hscan hcount => h.finishes e hscan hcount, htrail, ?_, h.apart.distinct,
    h.apart.whole⟩
  intro scan hscan fault hfault
  rcases htrail scan hscan with ⟨hnil, -⟩ | ⟨sql, n, hsql, -⟩
  · exact hnil
  · cases hsql.symm.trans hfault

end Watch

/-- With a database that stays as it is, scans give the first of its rows, or all of them. -/
theorem Watch.run_gives (config : Config) (e : Engine τ) (commands : List ScanCommand) :
    ∀ scan ∈ (run config empty (commands.map (e, ·))).scans,
      scan.given <+: e.rows ∧ (scan.fate = .ended → scan.given = e.rows) := by
  have hfollows : Follows config (empty : Watch τ) := empty_follows
  have hfaithful := (run_follows hfollows (commands.map (e, ·))).faithful
  have hreading : ∀ scan ∈ (run config empty (commands.map (e, ·))).scans,
      Reading (· = e.rows) scan :=
    run_reading (by simp [empty]) (commands.map (e, ·)) (by simp)
  intro scan hscan
  have hgiven := hfaithful.given scan hscan
  constructor
  · by_cases hnil : scan.given = []
    · rw [hnil]
      exact List.nil_prefix
    · rwa [← hreading scan hscan (.inl hnil)]
  · intro hended
    rw [← hreading scan hscan (.inr hended)]
    exact hfaithful.ended scan hscan hended

/-- Scans deliver the rows of their results, however they are interleaved. If no call fails, what
they give is what is expected of them, which does not depend on the fetch size. -/
theorem scans_deliver (config : Config) :
    (∀ (e : Engine τ) c, Connector.ofConfig config e = .ok c → ∀ commands : List ScanCommand,
      (Watch.run config .empty (commands.map (e, ·))).session =
        Session.runAll c .empty (commands.map ScanCommand.command) ∧
      ∀ scan ∈ (Watch.run config .empty (commands.map (e, ·))).scans,
        scan.given <+: e.rows ∧ (scan.fate = .ended → scan.given = e.rows)) ∧
    (∀ commands : List (Engine τ × ScanCommand),
      (Watch.run config .empty commands).Faithful config ∧
      ∀ scan ∈ (Watch.run config .empty commands).scans,
        Watch.Reading (fun result => ∃ x ∈ commands, result = x.1.rows) scan) ∧
    (ReadsSize config → ∀ commands : List (Engine τ × ScanCommand),
      (∀ x ∈ commands, x.1.Healthy) →
        (Watch.run config .empty commands).progress =
          Progress.runAll config.identifierQuote [] commands) ∧
    ∀ config' : Config, config'.identifierQuote = config.identifierQuote → ReadsSize config →
      ReadsSize config' → ∀ commands : List (Engine τ × ScanCommand),
        (∀ x ∈ commands, x.1.Healthy) →
          (Watch.run config' .empty commands).progress =
            (Watch.run config .empty commands).progress := by
  refine ⟨?_, ?_, ?_, ?_⟩
  · intro e c hc commands
    obtain rfl := Connector.eq_of_ofConfig hc
    exact ⟨Watch.run_session config e .empty commands, Watch.run_gives config e commands⟩
  · intro commands
    exact ⟨(Watch.run_follows Watch.empty_follows commands).faithful,
      Watch.run_reading (by simp [Watch.empty]) commands fun x hx => ⟨x, hx, rfl⟩⟩
  · exact fun hs commands hh => Watch.run_progress Watch.empty_follows hs commands hh
  · intro config' hquote hs hs' commands hh
    rw [Watch.run_progress Watch.empty_follows hs commands hh,
      Watch.run_progress Watch.empty_follows hs' commands hh, hquote]

/-- Three scans, in batches of two rows or of three. The first reads all rows that there were when it
began, the second is left after one row, and what the third asks for cannot be written. -/
theorem scans_deliver_by_turns :
    let config : Config :=
      ⟨"c", "oracle", "oracle://h", none, none, "\"", 2, [], by decide, by decide⟩
    let config' : Config := { config with fetchSize := 3, fetchSize_pos := by decide }
    let table : TableHandle := ⟨"c", ⟨"hr", "t", by decide, by decide⟩, none, some "HR", "T"⟩
    let column : Column := ⟨"ID", .bigint⟩
    let listsNull : Domain := ⟨.some [] [none] (.inr (by simp)), false⟩
    let scan (predicates : Predicates) : ScanCommand :=
      .scan ⟨"c", ⟨"oracle://h", []⟩, table, predicates⟩ [column]
    let before : Engine Nat := ⟨[], [], [], [1, 2, 3], .never, none⟩
    let after : Engine Nat := { before with rows := [4, 5] }
    let commands : List (Engine Nat × ScanCommand) := [(before, scan .all), (before, scan .all),
      (before, scan ⟨[⟨column, listsNull⟩], false, by decide⟩), (before, .advance 0 2),
      (after, .advance 1 1), (after, .advance 2 1), (after, .advance 0 5), (after, .stop 1)]
    let s := Watch.run config .empty commands
    s.Faithful config ∧ s.progress.map (·.given) = [[1, 2, 3], [4], []] ∧
      s.scans.map (·.events.length) = [10, 8, 0] ∧
      (Watch.run config' .empty commands).progress = s.progress ∧
      (Watch.run config .empty ([scan .all, .advance 0 2].map (before, ·))).session =
        Session.runAll (connector config before) .empty [(scan .all).command, .advance 0 2] := by
  intro config config' table column listsNull scan before after commands s
  have hhealthy : ∀ x ∈ commands, x.1.Healthy := by
    have hnever : ∀ rows : List Nat, Engine.Healthy ⟨[], [], [], rows, .never, none⟩ :=
      fun rows => ⟨rfl, rfl⟩
    simpa [commands, before, after] using ⟨hnever [1, 2, 3], hnever [4, 5]⟩
  have hs : ReadsSize config := by decide +kernel
  have hs' : ReadsSize config' := by decide +kernel
  obtain ⟨hsession, hfaithful, hprogress, hsize⟩ := scans_deliver (τ := Nat) config
  refine ⟨(hfaithful commands).1, ?_, by decide +kernel, hsize config' rfl hs hs' commands hhealthy,
    (hsession before _ rfl _).1⟩
  rw [hprogress hs commands hhealthy]
  decide +kernel

end Pushdown.Oracle
