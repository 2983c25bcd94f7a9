import Mathlib.Data.List.Nodup
import Pushdown.Proofs.Backends
import Pushdown.Session

/-!
Which connections are open in the course of a session. Whatever is asked for and whichever calls
fail, the open ones are those that the caller was given and has not closed, and one for each scan
that has begun and not ended.
-/
namespace Pushdown

variable {κ ρ ε τ : Type} {L : Ledger κ ε}

/-- The requests that look something up in the database and hand no connection over. -/
def Request.discovers : Request κ → Bool
  | .listSchemas | .listTables _ | .resolveTable _ | .listColumns _ => true
  | _ => false

/-- The connection that a command closes by itself. -/
def Command.closes : Command κ → List κ
  | .request (.close k) => [k]
  | _ => []

/-- The connection that an answer hands over. -/
def Answer.given : Answer κ τ → List κ
  | .connection k => [k]
  | _ => []

namespace Session

variable {c : Connector κ ρ ε τ}

/-- The connections of the scans that have begun and not ended. -/
def scanning (L : Ledger κ ε) (s : Session κ ρ ε) : List Nat := s.cursors.flatMap (Cursor.held L)

/-- The connection handed over by a command, if it succeeded in that. -/
def handedOver : Except Error (Answer κ τ) → List κ
  | .ok answer => answer.given
  | .error _ => []

theorem answer_passes {α : Type} {r : Run ε α} (hr : L.Settles r) {f : α → Answer κ τ}
    (hf : ∀ a, (f a).given = []) :
    L.Passes [] (do return f (← r)) fun answer => answer.given.map L.number := by
  refine hr.passes.bind ?_
  intro a
  simpa [hf a] using Ledger.Passes.pure (f a) fun answer => answer.given.map L.number

section Requests

variable (h : c.client.Keeps L)
include h

theorem perform_settles {r : Request κ} (hr : r.discovers = true) : L.Settles (perform c r) := by
  cases r with
  | listSchemas => exact (Discovery.listSchemas_settles (d := c.discovery) h).map _
  | listTables schema => exact (Discovery.listTables_settles (d := c.discovery) h schema).map _
  | resolveTable name => exact (Discovery.resolveTable_settles (d := c.discovery) h name).map _
  | listColumns table => exact (Discovery.listColumns_settles (d := c.discovery) h table).map _
  | _ => cases hr

/-- A look at the metadata of a connection hands none over. -/
theorem metadata_passes {α : Type} (k : κ) {r : Run ε α} (hr : L.Still r) {f : α → Answer κ τ}
    (hf : ∀ a, (f a).given = []) :
    L.Passes [] (do c.client.metadata k; return f (← r)) fun answer =>
      answer.given.map L.number :=
  (h.metadata k).settles.passes.bind fun _ => answer_passes hr.settles hf

theorem perform_passes {r : Request κ} (hr : (Command.request r).closes = []) :
    L.Passes [] (perform c r) fun answer => answer.given.map L.number := by
  cases r with
  | listSchemas => exact ((Discovery.listSchemas_settles (d := c.discovery) h)).passes.map
  | listTables schema =>
    exact (Discovery.listTables_settles (d := c.discovery) h schema).passes.map
  | resolveTable name =>
    exact (Discovery.resolveTable_settles (d := c.discovery) h name).passes.map
  | listColumns table =>
    exact (Discovery.listColumns_settles (d := c.discovery) h table).passes.map
  | buildSql table columns predicates =>
    exact (Connector.buildSql_still h table columns predicates).settles.passes.map
  | openConnection endpoint => exact (Connector.openConnection_passes h endpoint).map
  | connect endpoint => exact (h.connect_passes endpoint.url endpoint.properties).map
  | setReadOnly k value =>
    exact answer_passes (f := fun _ => .done) (h.setReadOnly k value).settles fun _ => rfl
  | close k => cases hr
  | storesUpper k => exact metadata_passes h k (h.storesUpper k) fun _ => rfl
  | schemas k => exact metadata_passes h k (h.schemas k) fun _ => rfl
  | tables k catalog schema table kinds =>
    exact metadata_passes h k (h.tables k catalog schema table kinds) fun _ => rfl
  | columns k catalog schema table =>
    exact metadata_passes h k (h.columns k catalog schema table) fun _ => rfl

end Requests

theorem read_finished (count : Nat) (j : Journal ε) :
    (read c count .finished j).1.2.2 = .finished := by
  cases count with
  | zero => rfl
  | succ count => rfl

/-- Reading on trades what the cursor held for what it holds then. -/
theorem read_trades (h : c.client.Keeps L) (count : Nat) (cursor : Cursor κ ρ) (j : Journal ε) :
    L.Trades (cursor.held L) ((read c count cursor j).1.2.2.held L) j
      (read c count cursor j).2 := by
  induction count generalizing cursor j with
  | zero => exact ⟨[], [], .refl j, by simp [read]⟩
  | succ count ih =>
    have hn := Connector.next_passes h cursor
    unfold read
    rcases ho : (c.next cursor).outcome j with ⟨e | _ | ⟨row, cursor₁⟩, j₁⟩
    · exact hn.error ho
    · exact hn.ok ho
    · exact (hn.ok ho).trans (ih cursor₁ j₁)

/-- A cursor can be told apart from the others: what they hold stays when it is replaced. A number
that no cursor has stands for one that is finished. -/
theorem exists_others_held (cursors : List (Cursor κ ρ)) (number : Nat) : ∃ rest,
    (cursors.flatMap (Cursor.held L)).Perm ((cursors.getD number .finished).held L ++ rest) ∧
      ∀ cursor, (number < cursors.length ∨ cursor.held L = []) →
        ((cursors.set number cursor).flatMap (Cursor.held L)).Perm (cursor.held L ++ rest) := by
  induction cursors generalizing number with
  | nil =>
    refine ⟨[], by simp [Cursor.held], ?_⟩
    intro cursor hn
    simp_all
  | cons first cursors ih =>
    cases number with
    | zero => exact ⟨cursors.flatMap (Cursor.held L), by simp, by simp⟩
    | succ number =>
      obtain ⟨rest, hrest, hset⟩ := ih number
      refine ⟨first.held L ++ rest, ?_, ?_⟩
      · simp only [List.flatMap_cons, List.getD_cons_succ]
        exact (hrest.append_left _).trans (List.perm_append_comm_assoc ..)
      · intro cursor hn
        simp only [List.set_cons_succ, List.flatMap_cons]
        have hn' : number < cursors.length ∨ cursor.held L = [] := by simpa using hn
        exact ((hset cursor hn').append_left _).trans (List.perm_append_comm_assoc ..)

/-- What one cursor trades, all of them trade together. -/
theorem trades_set {cursors : List (Cursor κ ρ)} {number : Nat} {cursor : Cursor κ ρ}
    {j j' : Journal ε} (hn : number < cursors.length ∨ cursor.held L = [])
    (ht : L.Trades ((cursors.getD number .finished).held L) (cursor.held L) j j') :
    L.Trades (cursors.flatMap (Cursor.held L))
      ((cursors.set number cursor).flatMap (Cursor.held L)) j j' := by
  obtain ⟨rest, hrest, hset⟩ := exists_others_held (L := L) cursors number
  exact (ht.frame rest).perm hrest (hset cursor hn).symm

/-- A command that closes no connection by itself trades the connections of the scans for those of
the scans after it and the one that it hands over. -/
theorem step_trades (h : c.client.Keeps L) (s : Session κ ρ ε) {command : Command κ}
    (hc : command.closes = []) :
    L.Trades (s.scanning L)
      ((step c s command).2.scanning L ++ (handedOver (step c s command).1).map L.number)
      s.journal (step c s command).2.journal := by
  cases command with
  | request r =>
    have hp := perform_passes h hc
    rcases ho : (perform c r).outcome s.journal with ⟨e | answer, j⟩
    · simpa [step, ho, handedOver, scanning] using (hp.error ho).frame (s.scanning L)
    · have ht := (hp.ok ho).frame (s.scanning L)
      simp only [step, ho, handedOver]
      exact ht.perm (by simp) List.perm_append_comm
  | execute k sql =>
    have ht := ((h.execute k sql).trades s.journal).frame (s.scanning L)
    rcases ho : (c.client.execute k sql).outcome s.journal with ⟨e | rows, j⟩
    all_goals
      rw [ho] at ht
      simpa [step, ho, handedOver, Answer.given, scanning, Cursor.held] using ht
  | scan split columns =>
    refine ⟨[], [], .refl _, ?_⟩
    simp [step, handedOver, Answer.given, scanning, Cursor.held]
  | advance number count =>
    have hn : number < s.cursors.length ∨
        (read c count (s.cursors.getD number .finished) s.journal).1.2.2.held L = [] := by
      by_cases hn : number < s.cursors.length
      · exact .inl hn
      · right
        rw [List.getD_eq_getElem?_getD, List.getElem?_eq_none (by omega), Option.getD_none,
          read_finished]
        rfl
    have ht := trades_set hn
      (read_trades h count (s.cursors.getD number .finished) s.journal)
    simpa [step, handedOver, Answer.given, scanning] using ht
  | stop number =>
    have hp := Connector.stop_passes h (s.cursors.getD number .finished)
    have hfinished : number < s.cursors.length ∨ (Cursor.finished : Cursor κ ρ).held L = [] :=
      .inr rfl
    rcases ho : (c.stop (s.cursors.getD number .finished)).outcome s.journal with ⟨e | _, j⟩
    · have ht := trades_set hfinished (hp.error ho)
      simp only [step, ho, Except.map, handedOver]
      simpa [scanning] using ht
    · have ht := trades_set hfinished (hp.ok ho)
      simp only [step, ho, Except.map, handedOver, Answer.given]
      simpa [scanning] using ht

/-- A request to close a connection closes that one and leaves the scans alone. -/
theorem step_close (h : c.client.Keeps L) (s : Session κ ρ ε) (k : κ) :
    L.Moves [] [L.number k] s.journal (step c s (.request (.close k))).2.journal ∧
      (step c s (.request (.close k))).2.cursors = s.cursors ∧
      handedOver (step c s (.request (.close k))).1 = [] := by
  have hm := h.close k s.journal
  rcases ho : (c.client.close k).outcome s.journal with ⟨e | _, j⟩
  all_goals
    rw [ho] at hm
    simp only [step, perform, Run.outcome_bind, ho]
    exact ⟨hm, trivial, rfl⟩

end Session

/-- A command either closes nothing by itself or is a request to close a connection. -/
theorem Command.closes_eq_nil_or (command : Command κ) :
    command.closes = [] ∨ ∃ k, command = .request (.close k) := by
  cases command with
  | request r =>
    cases r with
    | close k => exact .inr ⟨k, rfl⟩
    | _ => exact .inl rfl
  | _ => exact .inl rfl

/-- A session as its caller sees it, with the connections that the caller was given and those that
it has closed, each as often as that happened. -/
structure Holdings (κ ρ ε : Type) where
  session : Session κ ρ ε
  given : List κ
  returned : List κ

namespace Holdings

variable (c : Connector κ ρ ε τ)

def empty : Holdings κ ρ ε := ⟨.empty, [], []⟩

def step (s : Holdings κ ρ ε) (command : Command κ) : Holdings κ ρ ε :=
  let (answer, session) := Session.step c s.session command
  ⟨session, s.given ++ Session.handedOver answer, s.returned ++ command.closes⟩

def run (s : Holdings κ ρ ε) : List (Command κ) → Holdings κ ρ ε
  | [] => s
  | command :: rest => run (step c s command) rest

theorem run_session (s : Holdings κ ρ ε) (commands : List (Command κ)) :
    (run c s commands).session = Session.runAll c s.session commands := by
  induction commands generalizing s with
  | nil => rfl
  | cons command rest ih => exact ih (step c s command)

variable (L)

def opened (s : Holdings κ ρ ε) : List Nat := L.opened s.session.journal

def closed (s : Holdings κ ρ ε) : List Nat := L.closed s.session.journal

def scanning (s : Holdings κ ρ ε) : List Nat := s.session.scanning L

/-- The numbers of the connections that the caller was given. -/
def givenNumbers (s : Holdings κ ρ ε) : List Nat := s.given.map L.number

/-- The numbers of the connections that the caller has closed. -/
def returnedNumbers (s : Holdings κ ρ ε) : List Nat := s.returned.map L.number

/-- The caller closes nothing but what it was given. -/
def Fair (s : Holdings κ ρ ε) : Prop := s.returnedNumbers L ⊆ s.givenNumbers L

/-- What was opened was settled, is held by a scan or was given to the caller, and what was closed
was settled, or closed by the caller. -/
structure Balanced (s : Holdings κ ρ ε) : Prop where
  valid : L.Valid s.session.journal
  balance : ∃ settled, (s.opened L).Perm (settled ++ (s.scanning L ++ s.givenNumbers L)) ∧
    (s.closed L).Perm (settled ++ s.returnedNumbers L)

/-- No connection is lost sight of, and none is closed by anyone but its holder. -/
structure Accounted (s : Holdings κ ρ ε) : Prop where
  opened_nodup : (s.opened L).Nodup
  held_nodup : (s.scanning L ++ s.givenNumbers L).Nodup
  held_opened : s.scanning L ++ s.givenNumbers L ⊆ s.opened L
  open_iff : ∀ n, (n ∈ s.opened L ∧ n ∉ s.closed L) ↔
    (n ∈ s.givenNumbers L ∧ n ∉ s.returnedNumbers L) ∨ n ∈ s.scanning L
  closed_once : ∀ n ∈ s.opened L, n ∉ s.scanning L → n ∉ s.givenNumbers L →
    (s.closed L).count n = 1
  closed_given : ∀ n ∈ s.givenNumbers L, (s.closed L).count n = (s.returnedNumbers L).count n

section Balance

variable {L} {s s' : Holdings κ ρ ε} (hs : s.Balanced L)
include hs

/-- What is closed in a trade is settled by it, and what is handed over is held by the caller. -/
theorem Balanced.trade {handed : List Nat}
    (ht : L.Trades (s.scanning L) (s'.scanning L ++ handed) s.session.journal s'.session.journal)
    (hgiven : s'.givenNumbers L = s.givenNumbers L ++ handed)
    (hreturned : s'.returnedNumbers L = s.returnedNumbers L) : s'.Balanced L := by
  obtain ⟨settled, hopened, hclosed⟩ := hs.balance
  obtain ⟨os, cs, hm, hp⟩ := ht
  have ho : s'.opened L = s.opened L ++ os := hm.opened
  have hc : s'.closed L = s.closed L ++ cs := hm.closed
  rw [List.perm_iff_count] at hopened hclosed hp
  refine ⟨hm.valid hs.valid, settled ++ cs, ?_, ?_⟩
  all_goals
    rw [List.perm_iff_count]
    intro n
  · have hn := hopened n
    have hpn := hp n
    rw [ho, hgiven]
    simp only [List.count_append] at hn hpn ⊢
    omega
  · have hn := hclosed n
    rw [hc, hreturned]
    simp only [List.count_append] at hn ⊢
    omega

/-- A connection that the caller closes is booked on its side only. -/
theorem Balanced.giveBack {n : Nat} (hm : L.Moves [] [n] s.session.journal s'.session.journal)
    (hscanning : s'.scanning L = s.scanning L) (hgiven : s'.givenNumbers L = s.givenNumbers L)
    (hreturned : s'.returnedNumbers L = s.returnedNumbers L ++ [n]) : s'.Balanced L := by
  obtain ⟨settled, hopened, hclosed⟩ := hs.balance
  have ho : s'.opened L = s.opened L ++ [] := hm.opened
  have hc : s'.closed L = s.closed L ++ [n] := hm.closed
  refine ⟨hm.valid hs.valid, settled, ?_, ?_⟩
  · rw [ho, hscanning, hgiven, List.append_nil]
    exact hopened
  · rw [hc, hreturned, ← List.append_assoc]
    exact hclosed.append_right [n]

/-- With the books balanced and a caller that is fair, every connection is accounted for. -/
theorem Balanced.accounted (hnodup : (s.opened L).Nodup) (hfair : s.Fair L) :
    s.Accounted L := by
  obtain ⟨settled, hopened, hclosed⟩ := hs.balance
  rw [List.perm_iff_count] at hopened hclosed
  rw [List.nodup_iff_count_le_one] at hnodup
  -- Each number is settled, scanned or given at most once, and only a given one is returned.
  have hbook : ∀ n, ∃ k, (s.opened L).count n =
        k + ((s.scanning L).count n + (s.givenNumbers L).count n) ∧
      (s.closed L).count n = k + (s.returnedNumbers L).count n ∧ (s.opened L).count n ≤ 1 ∧
      (0 < (s.returnedNumbers L).count n → 0 < (s.givenNumbers L).count n) := by
    intro n
    refine ⟨settled.count n, by simpa using hopened n, by simpa using hclosed n, hnodup n, ?_⟩
    simpa only [List.count_pos_iff] using @hfair n
  constructor
  case opened_nodup => exact List.nodup_iff_count_le_one.mpr hnodup
  case held_nodup =>
    rw [List.nodup_iff_count_le_one]
    intro n
    obtain ⟨k, ho, -, hle, -⟩ := hbook n
    rw [List.count_append]
    omega
  all_goals
    intro n
    obtain ⟨k, ho, hc, hle, hr⟩ := hbook n
    simp only [← List.count_pos_iff, List.count_append]
    omega

end Balance

variable {L} {c} (h : c.client.Keeps L)
include h

theorem empty_balanced : (empty : Holdings κ ρ ε).Balanced L where
  valid := h.valid_empty
  balance := ⟨[], by simp [opened, empty, Session.empty, h.opened_empty, scanning,
    Session.scanning, givenNumbers], by simp [closed, empty, Session.empty, h.closed_empty,
    returnedNumbers]⟩

theorem step_balanced {s : Holdings κ ρ ε} (hs : s.Balanced L) (command : Command κ) :
    (step c s command).Balanced L := by
  have hgiven : (step c s command).givenNumbers L = s.givenNumbers L ++
      (Session.handedOver (Session.step c s.session command).1).map L.number := List.map_append
  have hreturned : (step c s command).returnedNumbers L =
      s.returnedNumbers L ++ command.closes.map L.number := List.map_append
  rcases command.closes_eq_nil_or with hc | ⟨k, rfl⟩
  · refine hs.trade ?_ hgiven ?_
    · exact Session.step_trades h s.session hc
    · rw [hreturned, hc, List.map_nil, List.append_nil]
  · obtain ⟨hm, hcursors, hnone⟩ := Session.step_close h s.session k
    apply hs.giveBack hm
    · exact congrArg (List.flatMap (Cursor.held L)) hcursors
    · rw [hgiven, hnone, List.map_nil, List.append_nil]
    · exact hreturned

theorem run_balanced {s : Holdings κ ρ ε} (hs : s.Balanced L) (commands : List (Command κ)) :
    (run c s commands).Balanced L := by
  induction commands generalizing s with
  | nil => exact hs
  | cons command rest ih => exact ih (step_balanced h hs command)

end Holdings

/-- What can be relied on about the connections of a connector. Each lookup closes what it opened.
An opened connection has just been made read-only, and is closed if that fails. The books, which are
kept of the session that commands make, balance after every sequence of them, and with a caller that
is fair, what is open is held by a scan or by the caller. -/
structure Connector.Tidy (c : Connector κ ρ ε τ) (L : Ledger κ ε) : Prop where
  discovery : ∀ {r : Request κ}, r.discovers = true → L.Settles (Session.perform c r)
  openConnection_ok : ∀ {endpoint j k j'}, (c.openConnection endpoint).outcome j = (.ok k, j') →
    L.Moves [L.number k] [] j j' ∧
      ∃ properties j₁, (c.client.connect endpoint.url properties).outcome j = (.ok k, j₁) ∧
        (c.client.setReadOnly k true).outcome j₁ = (.ok (), j')
  openConnection_error : ∀ {endpoint j e j'},
    (c.openConnection endpoint).outcome j = (.error e, j') →
      ∃ os, os.length ≤ 1 ∧ L.Moves os os j j'
  session : ∀ commands : List (Command κ),
    (Holdings.run c .empty commands).session = Session.runAll c .empty commands
  balanced : ∀ commands : List (Command κ), (Holdings.run c .empty commands).Balanced L
  accounted : ∀ commands : List (Command κ), (Holdings.run c .empty commands).Fair L →
    (Holdings.run c .empty commands).Accounted L

theorem Connector.tidy {c : Connector κ ρ ε τ} (h : c.client.Keeps L) : c.Tidy L where
  discovery := Session.perform_settles h
  openConnection_ok := openConnection_ok h
  openConnection_error := openConnection_error h
  session := Holdings.run_session c .empty
  balanced := Holdings.run_balanced h (Holdings.empty_balanced h)
  accounted := by
    intro commands hfair
    have hb := Holdings.run_balanced h (Holdings.empty_balanced h) commands
    exact hb.accounted (h.opened_nodup hb.valid) hfair

/-- No connector leaves a connection open, whichever calls fail and whatever is asked for in which
order. With Oracle the same holds of the engines, whatever library makes them: closing a connection
disposes of its engine even if the database fails to close it, and a connection that cannot be made
leaves no engine. -/
theorem Connector.leaves_nothing_open :
    (∀ {κ ρ ε τ : Type} {c : Connector κ ρ ε τ} {L : Ledger κ ε}, c.client.Keeps L → c.Tidy L) ∧
    (∀ {τ : Type} (config : Config) (db : Database τ) (mapper : TypeMapper) (dialect : Dialect)
      (policy : NamePolicy),
      (Connector.ofDatabase config db mapper dialect policy).Tidy Database.connections) ∧
    (∀ {ρ ε τ : Type} {l : Oracle.Library ρ ε τ} {L : Ledger Oracle.Connection ε}, l.Keeps L →
      (∀ config : Config, (Connector.make config l.client Oracle.typeMapper Oracle.dialect
        Oracle.namePolicy).Tidy L) ∧
      (∀ k j, L.Moves [] [k.engine] j ((l.client.close k).outcome j).2) ∧
      ∀ url properties j error j',
        (l.client.connect url properties).outcome j = (.error error, j') →
          ∃ engines, engines.length ≤ 1 ∧ L.Moves engines engines j j') ∧
    ∀ {τ : Type} (config : Config) (e : Oracle.Engine τ)
      (c : Connector Oracle.Connection (Oracle.Rows τ) Oracle.Event τ),
      Connector.ofConfig config e = .ok c →
        c.Tidy Oracle.engines ∧
        (∀ k j, ((c.client.close k).outcome j).2.events =
          j.events ++ [.close k.engine, .dispose k.engine]) ∧
        ∀ url properties j error j',
          (c.client.connect url properties).outcome j = (.error error, j') →
            j'.events = j.events ∨ ∃ engine address size arguments, j'.events = j.events ++
              [.create engine address size arguments, .connect engine, .dispose engine] := by
  refine ⟨Connector.tidy, ?_, ?_, ?_⟩
  · intro τ config db mapper dialect policy
    exact Connector.tidy (Database.client_keeps db)
  · intro ρ ε τ l L h
    refine ⟨fun config => Connector.tidy h.client_keeps, h.closeConnection_moves, ?_⟩
    intro url properties j error j' ho
    exact h.openConnection_moves ho
  · intro τ config e c hc
    obtain rfl := Connector.eq_of_ofConfig hc
    refine ⟨Connector.tidy (Oracle.Engine.library_keeps e).client_keeps, ?_, ?_⟩
    · intro k j
      exact congrArg Journal.events (Oracle.Engine.closeConnection_journal e k j)
    · intro url properties j error j' ho
      rcases Oracle.Engine.openConnection_error e ho with h | ⟨n, address, size, hevents, -⟩
      · exact .inl h.1
      · exact .inr ⟨n, address, size, _, hevents⟩

/-- The database fails to close the first connection, and to make the fourth read-only. The second
is the caller's, and closed by it, so that the scan has the only one that is open. With Oracle, an
engine that cannot connect is disposed of, and counts as such even if that fails as well. -/
theorem Connector.leaves_nothing_open_busy :
    let config : Config :=
      ⟨"c", "oracle", "oracle://h", none, none, "\"", 10, [], by decide, by decide⟩
    let endpoint : Endpoint := ⟨"oracle://h", []⟩
    let table : TableHandle := ⟨"c", ⟨"hr", "t", by decide, by decide⟩, none, some "HR", "T"⟩
    let outage : Outage := fun n p => p = .close && n < 4 || p = .setReadOnly && n > 8
    let db : Database Nat := ⟨["HR"], [], [], true, [7, 8], outage, none⟩
    let c := Connector.ofDatabase config db .generic Oracle.dialect Oracle.namePolicy
    let s := Holdings.run c .empty [.request .listSchemas, .request (.openConnection endpoint),
      .scan ⟨"c", endpoint, table, .all⟩ [⟨"ID", .bigint⟩], .advance 0 1,
      .request (.openConnection endpoint), .request (.close 2)]
    let e : Oracle.Engine Nat := ⟨[], [], [], [], .always [.connect], none⟩
    let l : Oracle.Library (Oracle.Result Nat) Oracle.Event Nat :=
      { e.library with dispose := fun n => do e.library.dispose n; throw (.failed .close) }
    let j := ((e.client.connect "oracle://h" []).outcome .empty).2
    s.opened Database.connections = [1, 2, 3, 4] ∧ s.closed Database.connections = [1, 4, 2] ∧
      s.scanning Database.connections = [3] ∧ s.Accounted Database.connections ∧
      (j.events = [] ∨ ∃ engine address size arguments,
        j.events = [.create engine address size arguments, .connect engine, .dispose engine]) ∧
      ∃ engines, engines.length ≤ 1 ∧ Oracle.engines.Moves engines engines .empty
        ((l.client.connect "oracle://h" []).outcome .empty).2 := by
  intro config endpoint table outage db c s e l j
  have hfair : s.returnedNumbers Database.connections = s.givenNumbers Database.connections := by
    decide +kernel
  have hkeeps : l.Keeps Oracle.engines :=
    { Oracle.Engine.library_keeps e with
      dispose := fun n j =>
        ((Oracle.Engine.library_keeps e).dispose n j).bind fun _ => .throw (.failed .close) }
  obtain ⟨htidy, -, hlibrary, horacle⟩ := Connector.leaves_nothing_open
  refine ⟨by decide +kernel, by decide +kernel, by decide +kernel,
    (htidy (Database.client_keeps db)).accounted _ (fun _ hn => hfair ▸ hn), ?_, ?_⟩
  · obtain ⟨-, -, hfailed⟩ := horacle config e _ rfl
    exact hfailed "oracle://h" [] .empty (.failed .connect) j rfl
  · obtain ⟨-, -, hfailed⟩ := hlibrary hkeeps
    exact hfailed "oracle://h" [] .empty (.failed .close) _ rfl

end Pushdown
