import Pushdown.Proofs.Scans

/-!
Many scans of one connector, advanced and left in any order. Each gives the rows of its own result
and has a connection of its own, whatever the others do in between.
-/
namespace Pushdown

/-- A cursor that has more gave all rows that were asked for; one that is over gave fewer. -/
theorem Session.length_read {κ ρ ε τ : Type} {c : Connector κ ρ ε τ} {count : Nat}
    {cursor cursor' : Cursor κ ρ} {j j' : Journal ε} {rows : List τ} {status : Status}
    (h : read c count cursor j = ((rows, status, cursor'), j')) :
    if status = .more then rows.length = count else rows.length < count := by
  induction count generalizing cursor j rows with
  | zero =>
    cases h
    rfl
  | succ count ih =>
    unfold read at h
    rcases ho : (c.next cursor).outcome j with ⟨e | _ | ⟨row, cursor₁⟩, j₁⟩
    · simp only [ho] at h
      cases h
      simp
    · simp only [ho] at h
      cases h
      simp
    · simp only [ho] at h
      rcases hr : read c count cursor₁ j₁ with ⟨⟨more, status₁, cursor₂⟩, j₂⟩
      simp only [hr] at h
      cases h
      have hlength := ih hr
      split_ifs at hlength ⊢ <;> simpa using hlength

theorem Session.read_finished_eq {κ ρ ε τ : Type} {c : Connector κ ρ ε τ} {count : Nat}
    {cursor' : Cursor κ ρ} {j j' : Journal ε} {rows : List τ} {status : Status}
    (h : read c count .finished j = ((rows, status, cursor'), j')) :
    rows = [] ∧ cursor' = .finished ∧ j' = j := by
  cases count with
  | zero =>
    cases h
    exact ⟨rfl, rfl, rfl⟩
  | succ count =>
    cases h
    exact ⟨rfl, rfl, rfl⟩

namespace Oracle

variable {τ : Type} {config : Config} {e : Engine τ} {j j' : Journal Event}

namespace Scan

variable {scan : Scan τ} {cursor cursor' : Cursor Connection (Rows τ)}

/-- What is seen later is about the engine of what was seen first. -/
theorem adds_trans {scan₁ : Scan τ} {seen₁ seen₂ : List Event} {j₁ : Journal Event}
    (h₁ : Adds scan seen₁ j j₁) (h₂ : Adds scan₁ seen₂ j₁ j') (hne : seen₁ ≠ [] ∨ scan.events ≠ [])
    (hsame : ∀ a ∈ seen₁ ++ seen₂, ∀ b ∈ seen₁ ++ seen₂, a.engine = b.engine) :
    Adds scan (seen₁ ++ seen₂) j j' := by
  have hnumbered := h₁.numbered.trans h₂.numbered
  refine ⟨by rw [h₂.events, h₁.events, List.append_assoc], hnumbered, fun hnil event hevent => ?_⟩
  obtain ⟨first, hfirst⟩ := List.exists_mem_of_ne_nil seen₁ (hne.resolve_right (not_not.mpr hnil))
  obtain ⟨hengine, hknown⟩ := h₁.fresh hnil first hfirst
  rw [hsame event hevent first (List.mem_append_left _ hfirst)]
  exact ⟨hengine, hknown.trans h₂.numbered⟩

/-- However many rows are asked for, the scan and its cursor go along together. -/
theorem Tracks.read (ht : Tracks config cursor scan) (hgoing : scan.fate = .going) {count : Nat}
    {rows : List τ} {status : Status}
    (h : Session.read (connector config e) count cursor j = ((rows, status, cursor'), j')) :
    ∃ seen, Adds scan seen j j' ∧
      Tracks config cursor' (scan.advance e.rows rows (.ofStatus status) seen) ∧
      (e.Healthy → ReadsSize config → count ≠ 0 → ∀ error,
        (status = .failed error ↔
          scan.given = [] ∧ scan.ready config.identifierQuote = .error error) ∧
        (status = .failed error → rows = [])) := by
  induction count generalizing scan cursor j rows with
  | zero =>
    cases h
    exact ⟨[], ⟨by simp, le_rfl, by simp⟩, ht.advance_nil hgoing, fun _ _ h => absurd rfl h⟩
  | succ count ih =>
    unfold Session.read at h
    rcases ho : ((connector config e).next cursor).outcome j with ⟨x, j₁⟩
    obtain ⟨seen₁, hadds₁, htracks₁, hready⟩ := ht.turns hgoing ho
    rcases x with error | _ | ⟨row, cursor₁⟩
    · simp only [ho] at h
      cases h
      refine ⟨seen₁, hadds₁, htracks₁, fun hh hs _ error' => ⟨?_, fun _ => rfl⟩⟩
      rw [← hready hh hs error']
      simp
    · simp only [ho] at h
      cases h
      refine ⟨seen₁, hadds₁, htracks₁, fun hh hs _ error' => ⟨?_, fun _ => rfl⟩⟩
      rw [← hready hh hs error']
      simp
    · simp only [ho] at h
      rcases hr : Session.read (connector config e) count cursor₁ j₁ with
        ⟨⟨more, status₁, cursor₂⟩, j₂⟩
      simp only [hr] at h
      cases h
      have htracks₁ : Tracks config cursor₁ (scan.advance e.rows [row] .going seen₁) := htracks₁
      have hgoing₁ : (scan.advance e.rows [row] .going seen₁).fate = .going := by
        rw [advance_of_going hgoing]
      have hgiven₁ : (scan.advance e.rows [row] .going seen₁).given ≠ [] := by
        simp [advance_of_going hgoing]
      obtain ⟨seen₂, hadds₂, htracks₂, hready₂⟩ := ih htracks₁ hgoing₁ hr
      rw [advance_advance (by simp), List.singleton_append] at htracks₂
      have hne : seen₁ ≠ [] ∨ scan.events ≠ [] := by
        have hevents := htracks₁.lawful.events_ne_nil hgiven₁
        rw [advance] at hevents
        simpa [or_comm, imp_iff_not_or] using hevents
      refine ⟨seen₁ ++ seen₂, adds_trans hadds₁ hadds₂ hne fun a ha b hb => ?_, htracks₂, ?_⟩
      · exact htracks₂.lawful.same_engine (List.mem_append_right _ ha) (List.mem_append_right _ hb)
      · intro hh hs _ error
        have hbegan : ¬(scan.given = [] ∧ scan.ready config.identifierQuote = .error error) := by
          rw [← hready hh hs error]
          simp
        have hmore : status ≠ .failed error := by
          by_cases hcount : count = 0
          · subst hcount
            cases hr
            simp
          · rw [Ne, (hready₂ hh hs hcount error).1]
            exact fun hnil => hgiven₁ hnil.1
        exact ⟨⟨fun hfailed => absurd hfailed hmore, fun hfailed => absurd hfailed hbegan⟩,
          fun hfailed => absurd hfailed hmore⟩

/-- A scan that is over takes no notice of being advanced. -/
theorem advance_of_over {rows given : List τ} {fate : Fate} (h : scan.fate ≠ .going) :
    scan.advance rows given fate [] = scan := by
  rw [advance, Progress.advance_of_over h, List.append_nil]

theorem Tracks.advance (ht : Tracks config cursor scan) {count : Nat} {rows : List τ}
    {status : Status}
    (h : Session.read (connector config e) count cursor j = ((rows, status, cursor'), j')) :
    ∃ seen, Adds scan seen j j' ∧
      Tracks config cursor' (scan.advance e.rows rows (.ofStatus status) seen) := by
  by_cases hgoing : scan.fate = .going
  · obtain ⟨seen, hadds, htracks, -⟩ := ht.read hgoing h
    exact ⟨seen, hadds, htracks⟩
  · cases ht with
    | planned => exact absurd rfl hgoing
    | scanning reads begun => exact absurd reads.going hgoing
    | finished hover lawful =>
      obtain ⟨rfl, rfl, rfl⟩ := Session.read_finished_eq h
      refine ⟨[], ⟨by simp, le_rfl, by simp⟩, ?_⟩
      rw [advance_of_over hover]
      exact .finished hover lawful

/-- A scan that is left closes its result and its connection, if it has any. -/
theorem Tracks.stop (ht : Tracks config cursor scan) {x : Except Error Unit}
    (h : ((connector config e).stop cursor).outcome j = (x, j')) :
    ∃ seen, Adds scan seen j j' ∧ Tracks config .finished (scan.leave seen) := by
  cases ht with
  | planned =>
    cases h
    refine ⟨[], ⟨by simp, le_rfl, by simp⟩, .finished (fun h => by cases h) ?_⟩
    exact ⟨List.nil_prefix, fun h => (by cases h), .inl ⟨rfl, rfl, fun h => (by cases h)⟩⟩
  | @scanning k batch left scan reads begun =>
    obtain ⟨sql, hsql, htrail⟩ := reads.trail
    have hj : j' = ((e.library.closeConnection k).outcome
        ((e.closeResult k.engine).outcome j).2).2 := by
      have hjournal := Run.journal_ensuring (e.closeResult k.engine) (e.library.closeConnection k) j
      exact (congrArg Prod.snd h).symm.trans hjournal
    rcases hr : (e.closeResult k.engine).outcome j with ⟨y, j₁⟩
    rcases hc : (e.library.closeConnection k).outcome j₁ with ⟨z, j₂⟩
    rw [hr, hc] at hj
    obtain rfl := hj
    have hsees := (Engine.call_sees hr).trans (Engine.closeConnection_sees hc)
    refine ⟨_, ⟨hsees.1, hsees.2.ge, fun hnil => absurd hnil htrail.ne_nil⟩, ?_⟩
    have hleave : scan.toProgress.leave = { scan.toProgress with fate := .left } :=
      if_pos reads.going
    refine .finished ?_ ⟨?_, ?_, .inr ⟨sql, k.engine, ?_, ?_⟩⟩
    all_goals
      rw [Scan.leave, hleave]
    · simp
    · exact ⟨_, reads.rest⟩
    · simp
    · exact hsql
    · exact htrail.close (by simp) 0
  | finished hover lawful =>
    cases h
    refine ⟨[], ⟨by simp, le_rfl, by simp⟩, ?_⟩
    have hleave : scan.toProgress.leave = scan.toProgress := if_neg hover
    rw [Scan.leave, hleave, List.append_nil]
    exact .finished hover lawful

/-- Something was seen of the scan on the engine. -/
def On (n : Nat) (scan : Scan τ) : Prop := ∃ event ∈ scan.events, event.engine = n

end Scan

/-- Each engine is that of one scan, and sees what is seen of that scan only. -/
structure Apart (scans : List (Scan τ)) (j : Journal Event) : Prop where
  known : ∀ event ∈ j.events, event.engine ≤ j.numbered
  whole : ∀ event ∈ j.events, ∃ scan ∈ scans, event ∈ scan.events
  own : ∀ (i : Nat) (scan : Scan τ) n, scans[i]? = some scan → scan.On n →
    j.events.filter (·.engine = n) = scan.events
  distinct : ∀ (i k : Nat) (a b : Scan τ) n, scans[i]? = some a → scans[k]? = some b →
    a.On n → b.On n → i = k

namespace Apart

variable {scans : List (Scan τ)} (h : Apart scans j)

section
include h

theorem on_le {i : Nat} {scan : Scan τ} {n : Nat} (hi : scans[i]? = some scan) (hn : scan.On n) :
    n ≤ j.numbered := by
  have hown := h.own i scan n hi hn
  obtain ⟨event, hevent, rfl⟩ := hn
  rw [← hown] at hevent
  exact h.known event (List.mem_filter.mp hevent).1

theorem append {scan : Scan τ} (hnil : scan.events = []) : Apart (scans ++ [scan]) j := by
  have hget : ∀ {i : Nat} {a : Scan τ} {n : Nat}, (scans ++ [scan])[i]? = some a → a.On n →
      scans[i]? = some a := by
    rintro i a n hi ⟨event, hevent, -⟩
    rw [List.getElem?_append] at hi
    split_ifs at hi
    · exact hi
    · obtain rfl := List.mem_singleton.mp (List.mem_of_getElem? hi)
      simp [hnil] at hevent
  refine ⟨h.known, fun event hevent => ?_, fun i a n hi hn => h.own i a n (hget hi hn) hn, ?_⟩
  · obtain ⟨a, ha, hevent⟩ := h.whole event hevent
    exact ⟨a, List.mem_append_left _ ha, hevent⟩
  intro i k a b n hi hk ha hb
  exact h.distinct i k a b n (hget hi ha) (hget hk hb) ha hb

end

theorem get_set {i k : Nat} {a scan' : Scan τ} (hk : (scans.set i scan')[k]? = some a) :
    k = i ∧ a = scan' ∨ k ≠ i ∧ scans[k]? = some a := by
  rw [List.getElem?_set] at hk
  split_ifs at hk with hik hlt
  · exact .inl ⟨hik.symm, (Option.some.inj hk).symm⟩
  · exact .inr ⟨Ne.symm hik, hk⟩

section

variable {i : Nat} {scan scan' : Scan τ} {seen : List Event} (hi : scans[i]? = some scan)
  (hadds : Adds scan seen j j') (hevents : scan'.events = scan.events ++ seen)
  (hsame : ∀ a ∈ scan'.events, ∀ b ∈ scan'.events, a.engine = b.engine)
include h hi hadds hevents

theorem whole_set : ∀ event ∈ j'.events, ∃ a ∈ scans.set i scan', event ∈ a.events := by
  intro event hevent
  obtain ⟨hlt, rfl⟩ := List.getElem?_eq_some_iff.mp hi
  have hself : scan' ∈ scans.set i scan' := List.mem_set hlt scan'
  rw [hadds.events, List.mem_append] at hevent
  rcases hevent with hevent | hevent
  · obtain ⟨a, ha, hevent⟩ := h.whole event hevent
    obtain ⟨k, hk⟩ := List.getElem?_of_mem ha
    by_cases hik : i = k
    · subst hik
      obtain rfl : scans[i] = a := by simpa [hlt] using hk
      exact ⟨scan', hself, hevents ▸ List.mem_append_left _ hevent⟩
    · refine ⟨a, List.mem_of_getElem? (i := k) ?_, hevent⟩
      rwa [List.getElem?_set_ne hik]
  · exact ⟨scan', hself, hevents ▸ List.mem_append_right _ hevent⟩

include hsame

/-- What is seen next of a scan is on its engine, or on a new one if it has none. -/
theorem engine_of_seen {n : Nat} (hn : scan'.On n) : (∀ event ∈ seen, event.engine = n) ∧
    n ≤ j'.numbered ∧ (scan.On n ∨ n = j.numbered + 1 ∧ scan.events = []) := by
  obtain ⟨event, hevent, rfl⟩ := hn
  have hseen : ∀ other ∈ seen, other.engine = event.engine := by
    intro other hother
    exact hsame other (hevents ▸ List.mem_append_right _ hother) event hevent
  by_cases hnil : scan.events = []
  · rw [hevents, hnil] at hevent
    obtain ⟨hengine, hknown⟩ := hadds.fresh hnil event hevent
    exact ⟨hseen, hknown, .inr ⟨hengine, hnil⟩⟩
  · obtain ⟨first, hfirst⟩ := List.exists_mem_of_ne_nil _ hnil
    have hon : scan.On event.engine :=
      ⟨first, hfirst, hsame first (hevents ▸ List.mem_append_left _ hfirst) event hevent⟩
    exact ⟨hseen, (h.on_le hi hon).trans hadds.numbered, .inl hon⟩

/-- Another scan is on none of the engines of this one, neither the old nor a new one. -/
theorem not_on_of_ne {k : Nat} {a : Scan τ} {n : Nat} (hki : k ≠ i) (hk : scans[k]? = some a)
    (ha : a.On n) : ¬scan'.On n := by
  intro hn
  obtain ⟨-, -, hon | ⟨hnew, -⟩⟩ := h.engine_of_seen hi hadds hevents hsame hn
  · exact hki (h.distinct k i a scan n hk hi ha hon)
  · have hle := h.on_le hk ha
    omega

theorem known_set : ∀ event ∈ j'.events, event.engine ≤ j'.numbered := by
  intro event hevent
  rw [hadds.events, List.mem_append] at hevent
  rcases hevent with hevent | hevent
  · exact (h.known event hevent).trans hadds.numbered
  · exact (h.engine_of_seen hi hadds hevents hsame
      ⟨event, hevents ▸ List.mem_append_right _ hevent, rfl⟩).2.1

theorem own_set {n : Nat} (hn : scan'.On n) :
    j'.events.filter (·.engine = n) = scan'.events := by
  obtain ⟨hseen, -, hold⟩ := h.engine_of_seen hi hadds hevents hsame hn
  have hnew : seen.filter (·.engine = n) = seen := by
    simpa [List.filter_eq_self] using hseen
  have hbefore : j.events.filter (·.engine = n) = scan.events := by
    rcases hold with hon | ⟨rfl, hnil⟩
    · exact h.own i scan n hi hon
    · rw [hnil, List.filter_eq_nil_iff]
      intro event hevent
      have hle := h.known event hevent
      simp only [decide_eq_true_eq]
      omega
  rw [hadds.events, List.filter_append, hnew, hbefore, hevents]

theorem own_of_ne {k : Nat} {a : Scan τ} {n : Nat} (hki : k ≠ i) (hk : scans[k]? = some a)
    (ha : a.On n) : j'.events.filter (·.engine = n) = a.events := by
  have hnone : seen.filter (·.engine = n) = [] := by
    rw [List.filter_eq_nil_iff]
    intro event hevent hengine
    refine h.not_on_of_ne hi hadds hevents hsame hki hk ha
      ⟨event, hevents ▸ List.mem_append_right _ hevent, ?_⟩
    simpa using hengine
  rw [hadds.events, List.filter_append, hnone, List.append_nil]
  exact h.own k a n hk ha

theorem set : Apart (scans.set i scan') j' where
  known := h.known_set hi hadds hevents hsame
  whole := h.whole_set hi hadds hevents
  own k a n hk hn := by
    rcases get_set hk with ⟨rfl, rfl⟩ | ⟨hki, hk⟩
    · exact h.own_set hi hadds hevents hsame hn
    · exact h.own_of_ne hi hadds hevents hsame hki hk hn
  distinct k l a b n hk hl ha hb := by
    have hother : ∀ {m : Nat} {x : Scan τ}, m ≠ i → scans[m]? = some x → x.On n → ¬scan'.On n :=
      h.not_on_of_ne hi hadds hevents hsame
    rcases get_set hk with ⟨rfl, rfl⟩ | ⟨hki, hka⟩
    · rcases get_set hl with ⟨rfl, rfl⟩ | ⟨hli, hlb⟩
      · rfl
      · exact absurd ha (hother hli hlb hb)
    · rcases get_set hl with ⟨rfl, rfl⟩ | ⟨hli, hlb⟩
      · exact absurd hb (hother hki hka ha)
      · exact h.distinct k l a b n hka hlb ha hb

end

end Apart

/-- What is asked of the scans of a connector. -/
inductive ScanCommand
  | scan (split : Split) (columns : List Column)
  | advance (number count : Nat)
  | stop (number : Nat)

def ScanCommand.command : ScanCommand → Command Connection
  | .scan split columns => .scan split columns
  | .advance number count => .advance number count
  | .stop number => .stop number

/-- A session with its scans as their callers see them. -/
structure Watch (τ : Type) where
  session : Session Connection (Rows τ) Event
  scans : List (Scan τ)

namespace Watch

def empty : Watch τ := ⟨.empty, []⟩

/-- Runs one command with the database as it stands; what the database sees meanwhile is seen of the
scan that the command is about. -/
def step (config : Config) (s : Watch τ) (e : Engine τ) (command : ScanCommand) : Watch τ :=
  let (answer, session) := Session.step (connector config e) s.session command.command
  let seen := session.journal.events.drop s.session.journal.events.length
  ⟨session, match command, answer with
    | .scan split columns, _ => s.scans ++ [.planned split columns []]
    | .advance number _, .ok (.rows rows status) =>
      s.scans.modify number (·.advance e.rows rows (.ofStatus status) seen)
    | .advance .., _ => s.scans
    | .stop number, _ => s.scans.modify number (·.leave seen)⟩

/-- Runs commands in their order. The database may change from one to the next. -/
def run (config : Config) (s : Watch τ) : List (Engine τ × ScanCommand) → Watch τ
  | [] => s
  | (e, command) :: rest => run config (step config s e command) rest

/-- With a database that stays as it is, a watched session is a session. -/
theorem run_session (config : Config) (e : Engine τ) (s : Watch τ) (commands : List ScanCommand) :
    (run config s (commands.map (e, ·))).session =
      Session.runAll (connector config e) s.session (commands.map (·.command)) := by
  induction commands generalizing s with
  | nil => rfl
  | cons command rest ih => exact ih (step config s e command)

/-- Every cursor stands where its scan does, and no two scans share an engine. -/
structure Follows (config : Config) (s : Watch τ) : Prop where
  tracks : List.Forall₂ (Scan.Tracks config) s.session.cursors s.scans
  apart : Apart s.scans s.session.journal

variable {s : Watch τ}

theorem empty_follows : (empty : Watch τ).Follows config where
  tracks := .nil
  apart := ⟨by simp [empty, Session.empty, Journal.empty],
    by simp [empty, Session.empty, Journal.empty], by simp [empty], by simp [empty]⟩

theorem Follows.lawful (h : s.Follows config) : ∀ scan ∈ s.scans, Scan.Lawful config scan :=
  forall_of_forall₂ h.tracks fun _ _ ht => ht.lawful

/-- A command about one scan leaves the others where they are. -/
theorem Follows.update (h : s.Follows config) {number : Nat}
    {cursor' : Cursor Connection (Rows τ)} {f : List Event → Scan τ → Scan τ}
    (hevents : ∀ seen scan, (f seen scan).events = scan.events ++ seen)
    (hturn : ∀ scan, Scan.Tracks config (s.session.cursors.getD number .finished) scan →
      ∃ seen, Adds scan seen s.session.journal j' ∧ Scan.Tracks config cursor' (f seen scan))
    (hnone : s.session.cursors.getD number .finished = .finished → j' = s.session.journal) :
    Follows config ⟨⟨j', s.session.cursors.set number cursor'⟩,
      s.scans.modify number (f (j'.events.drop s.session.journal.events.length))⟩ := by
  have hlength := h.tracks.length_eq
  by_cases hn : number < s.scans.length
  · have hscan := List.getElem?_eq_getElem hn
    have hcursor := List.getElem?_eq_getElem (hlength ▸ hn : number < s.session.cursors.length)
    have ht := rel_of_forall₂ h.tracks hcursor hscan
    rw [List.getD_eq_getElem?_getD, hcursor, Option.getD_some] at hturn
    obtain ⟨seen, hadds, htracks⟩ := hturn _ ht
    have hseen : j'.events.drop s.session.journal.events.length = seen := by
      rw [hadds.events, List.drop_left]
    have hmodify : s.scans.modify number (f seen) =
        s.scans.set number (f seen s.scans[number]) := by
      rw [List.modify_eq_set_getElem?, hscan]
      rfl
    rw [hseen, hmodify]
    refine ⟨forall₂_set h.tracks htracks number, h.apart.set hscan hadds (hevents _ _) ?_⟩
    exact fun a ha b hb => htracks.lawful.same_engine ha hb
  · have hn : s.scans.length ≤ number := Nat.le_of_not_lt hn
    have hfinished : s.session.cursors.getD number .finished = .finished := by
      rw [List.getD_eq_getElem?_getD, List.getElem?_eq_none (hlength ▸ hn), Option.getD_none]
    rw [hnone hfinished, List.set_eq_of_length_le (hlength ▸ hn), List.modify_eq_self hn]
    exact h

theorem step_advance (config : Config) (s : Watch τ) (e : Engine τ) (number count : Nat) :
    ∃ rows status cursor' j', Session.read (connector config e) count
        (s.session.cursors.getD number .finished) s.session.journal =
          ((rows, status, cursor'), j') ∧
      step config s e (.advance number count) =
        ⟨⟨j', s.session.cursors.set number cursor'⟩, s.scans.modify number
          (·.advance e.rows rows (.ofStatus status)
            (j'.events.drop s.session.journal.events.length))⟩ := by
  rcases hr : Session.read (connector config e) count (s.session.cursors.getD number .finished)
    s.session.journal with ⟨⟨rows, status, cursor'⟩, j'⟩
  refine ⟨rows, status, cursor', j', rfl, ?_⟩
  simp only [step, ScanCommand.command, Session.step, hr]

theorem step_stop (config : Config) (s : Watch τ) (e : Engine τ) (number : Nat) :
    ∃ x j', ((connector config e).stop (s.session.cursors.getD number .finished)).outcome
        s.session.journal = (x, j') ∧
      step config s e (.stop number) =
        ⟨⟨j', s.session.cursors.set number .finished⟩, s.scans.modify number
          (·.leave (j'.events.drop s.session.journal.events.length))⟩ := by
  rcases ho : ((connector config e).stop (s.session.cursors.getD number .finished)).outcome
    s.session.journal with ⟨x, j'⟩
  refine ⟨x, j', rfl, ?_⟩
  simp only [step, ScanCommand.command, Session.step, ho]

theorem step_follows (h : s.Follows config) (e : Engine τ) (command : ScanCommand) :
    (step config s e command).Follows config := by
  cases command with
  | scan split columns =>
    exact ⟨List.rel_append h.tracks (.cons .planned .nil), h.apart.append rfl⟩
  | advance number count =>
    obtain ⟨rows, status, cursor', j', hr, hstep⟩ := step_advance config s e number count
    rw [hstep]
    refine h.update (fun _ _ => rfl) (fun scan ht => ht.advance hr) fun hfinished => ?_
    rw [hfinished] at hr
    exact (Session.read_finished_eq hr).2.2
  | stop number =>
    obtain ⟨x, j', ho, hstep⟩ := step_stop config s e number
    rw [hstep]
    refine h.update (fun _ _ => rfl) (fun scan ht => ht.stop ho) fun hfinished => ?_
    rw [hfinished] at ho
    cases ho
    rfl

theorem run_follows (h : s.Follows config) (commands : List (Engine τ × ScanCommand)) :
    (run config s commands).Follows config := by
  induction commands generalizing s with
  | nil => exact h
  | cons command rest ih => exact ih (step_follows h command.1 command.2)

end Watch
end Oracle
end Pushdown
