import Mathlib.Data.List.Range
import Pushdown.Proofs.Connections
import Pushdown.Session

/-!
The books of the two clients. A database held in memory numbers its connections, and with Oracle
each connection is the only one of an engine, so that engines are counted.
-/
namespace Pushdown

variable {τ : Type}

namespace Database

def Event.closes : Event → Option Nat
  | .close k => some k
  | _ => none

/-- Connections have the numbers from one on, and a call to close one is an event. -/
def connections : Ledger Nat Event where
  number := id
  opened j := List.range' 1 j.numbered
  closed j := j.events.filterMap Event.closes
  Valid _ := True

theorem runCall_still (outage : Outage) (p : Point) : connections.Still (Run.call outage p) :=
  fun _ => ⟨id, (List.append_nil _).symm, (List.append_nil _).symm⟩

variable (db : Database τ)

theorem call_moves (e : Event) (p : Point) (j : Journal Event) :
    connections.Moves [] e.closes.toList j ((db.call e p).outcome j).2 := by
  have he : connections.Moves [] e.closes.toList j ((Run.event e).outcome j).2 := by
    refine ⟨id, (List.append_nil _).symm, ?_⟩
    cases hc : e.closes <;> simp [connections, Run.event, hc]
  exact he.bind fun _ => runCall_still db.outage p

theorem call_still {e : Event} (he : e.closes = none) (p : Point) :
    connections.Still (db.call e p) := by
  intro j
  simpa [he] using call_moves db e p j

theorem next_still (reading : Reading τ) : connections.Still (db.next reading) := by
  obtain ⟨index, rest⟩ := reading
  have hcall := runCall_still db.outage .fetchRow
  unfold next
  by_cases hf : db.failingRow = some index
  · rw [if_pos hf]
    cases rest with
    | nil => exact .bind (.throw _) fun _ => hcall.bind fun _ => .pure none
    | cons row rest => exact .bind (.throw _) fun _ => hcall.bind fun _ => .pure _
  · rw [if_neg hf]
    cases rest with
    | nil => exact hcall.bind fun _ => .pure none
    | cons row rest => exact hcall.bind fun _ => .pure _

theorem client_keeps : db.client.Keeps connections where
  valid_empty := trivial
  opened_empty := rfl
  closed_empty := rfl
  opened_nodup _ := List.nodup_range'
  note _ _ := ⟨id, (List.append_nil _).symm, (List.append_nil _).symm⟩
  connect_ok := by
    intro url properties j k j' hc
    obtain ⟨_, j₁, hcall, hn⟩ := Run.bind_eq_ok.mp hc
    have hm := (call_still db (e := .connect url properties) rfl .connect).moves hcall
    cases hn
    refine hm.trans ⟨id, ?_, (List.append_nil _).symm⟩
    simp [connections, List.range'_1_concat, Nat.add_comm]
  connect_error := by
    intro url properties j e j' hc
    rcases Run.bind_eq_error.mp hc with hcall | ⟨_, _, -, hn⟩
    · exact ⟨[], by simp,
        (call_still db (e := .connect url properties) rfl .connect).moves hcall⟩
    · cases hn
  metadata _ := runCall_still db.outage .metadata
  storesUpper _ := (runCall_still db.outage .storesUpperCase).bind fun _ => .pure _
  schemas _ := (call_still db rfl .getSchemas).bind fun _ => .pure _
  tables _ _ _ _ _ := (call_still db rfl .getTables).bind fun _ => .pure _
  columns _ _ _ _ := (call_still db rfl .getColumns).bind fun _ => .pure _
  setReadOnly _ _ := call_still db rfl .setReadOnly
  execute _ _ := (call_still db rfl .execute).bind fun _ => .pure _
  next := next_still db
  stop _ := .pure ()
  close k := call_moves db (.close k) .close

end Database

namespace Oracle

namespace Library

section Operations

variable {ρ ε : Type} {l : Library ρ ε τ} {url : String} {properties : Properties}
  {j j' : Journal ε}

/-- What was asked of a library while a connection was opened. -/
theorem openConnection_ok {k : Connection}
    (ho : (l.openConnection url properties).outcome j = (.ok k, j')) :
    fetchSize properties = .ok k.fetchSize ∧ ∃ address, clientAddress url = .ok address ∧
      ∃ j₁ j₂, (l.create address k.fetchSize (credentials properties)).outcome j =
          (.ok k.engine, j₁) ∧
        (l.connect k.engine).outcome j₁ = (.ok (), j₂) ∧
        (Run.note (.connectionOpened address)).outcome j₂ = (.ok (), j') := by
  obtain ⟨size, j₁, hs, h₁⟩ := Run.bind_eq_ok.mp ho
  obtain rfl := Run.eq_of_ofExcept hs
  have hsize := Run.ofExcept_eq_ok hs
  obtain ⟨address, j₂, ha, h₂⟩ := Run.bind_eq_ok.mp h₁
  obtain rfl := Run.eq_of_ofExcept ha
  have haddress := Run.ofExcept_eq_ok ha
  obtain ⟨engine, j₃, hcreate, h₃⟩ := Run.bind_eq_ok.mp h₂
  obtain ⟨_, j₄, hconnect, h₄⟩ := Run.bind_eq_ok.mp h₃
  rw [Run.onFailure_eq_ok] at hconnect
  cases h₄
  exact ⟨hsize, address, haddress, j₃, j₄, hcreate, hconnect, rfl⟩

/-- A connection that could not be opened has no engine, since its size or its address cannot be
read or none could be made, or one that was disposed of at once. -/
theorem openConnection_error {error : Error}
    (ho : (l.openConnection url properties).outcome j = (.error error, j')) :
    (j' = j ∧ (fetchSize properties = .error error ∨
      ∃ fault, clientAddress url = .error fault ∧ error = .address fault)) ∨
    ∃ address size, fetchSize properties = .ok size ∧ clientAddress url = .ok address ∧
      ((l.create address size (credentials properties)).outcome j = (.error error, j') ∨
        ∃ n j₁ cause j₂, (l.create address size (credentials properties)).outcome j =
            (.ok n, j₁) ∧
          (l.connect n).outcome j₁ = (.error cause, j₂) ∧
          j' = ((l.dispose n).outcome j₂).2) := by
  rcases Run.bind_eq_error.mp ho with hs | ⟨size, j₁, hs, h₁⟩
  · exact .inl ⟨Run.eq_of_ofExcept hs, .inl (by simpa using Run.ofExcept_eq_error hs)⟩
  obtain rfl := Run.eq_of_ofExcept hs
  have hsize := Run.ofExcept_eq_ok hs
  rcases Run.bind_eq_error.mp h₁ with ha | ⟨address, j₂, ha, h₂⟩
  · obtain ⟨fault, hfault, herror⟩ := Run.ofExcept_eq_error ha
    exact .inl ⟨Run.eq_of_ofExcept ha, .inr ⟨fault, hfault, herror.symm⟩⟩
  obtain rfl := Run.eq_of_ofExcept ha
  refine .inr ⟨address, size, hsize, Run.ofExcept_eq_ok ha, ?_⟩
  rcases Run.bind_eq_error.mp h₂ with hcreate | ⟨engine, j₃, hcreate, h₃⟩
  · exact .inl hcreate
  rcases Run.bind_eq_error.mp h₃ with hf | ⟨_, _, _, h₄⟩
  · obtain ⟨cause, j₄, hconnect, hj⟩ := Run.exists_of_onFailure_eq_error hf
    exact .inr ⟨engine, j₃, cause, j₄, hcreate, hconnect, hj.symm⟩
  · cases h₄

/-- The engine is disposed of after the connection was closed, whatever came of that. -/
theorem closeConnection_journal (k : Connection) (j : Journal ε) :
    ((l.closeConnection k).outcome j).2 =
      ((l.dispose k.engine).outcome ((l.close k.engine).outcome j).2).2 :=
  Run.journal_ensuring ..

end Operations

/-- A ledger is right about a library. An engine is booked under its number, as opened when it is
made and as closed by each call that disposes of it, even one that fails. A call that fails to make
an engine leaves none, and no other call makes one or disposes of one. -/
structure Keeps {ρ ε : Type} (l : Library ρ ε τ) (L : Ledger Connection ε) : Prop
    extends L.Sound where
  number : ∀ k, L.number k = k.engine
  create_ok : ∀ {address size arguments j n j'},
    (l.create address size arguments).outcome j = (.ok n, j') → L.Moves [n] [] j j'
  create_error : ∀ {address size arguments j e j'},
    (l.create address size arguments).outcome j = (.error e, j') → L.Moves [] [] j j'
  connect : ∀ n, L.Still (l.connect n)
  schemas : ∀ n sql, L.Still (l.schemas n sql)
  tables : ∀ n sql parameters, L.Still (l.tables n sql parameters)
  columns : ∀ n sql parameters, L.Still (l.columns n sql parameters)
  run : ∀ n sql, L.Still (l.run n sql)
  fetch : ∀ n size result, L.Still (l.fetch n size result)
  closeResult : ∀ n result, L.Still (l.closeResult n result)
  close : ∀ n, L.Still (l.close n)
  dispose : ∀ n j, L.Moves [] [n] j ((l.dispose n).outcome j).2

namespace Keeps

variable {ρ ε : Type} {l : Library ρ ε τ} {L : Ledger Connection ε} (h : l.Keeps L)
include h

theorem readOn_still (k : Connection) (result : ρ) : L.Still (l.readOn k result) := by
  refine ((h.fetch k.engine k.fetchSize result).onFailure
    (h.closeResult k.engine result)).bind ?_
  rintro ⟨_ | ⟨row, batch⟩, result⟩
  · exact (h.closeResult k.engine result).bind fun _ => .pure none
  · exact .pure _

theorem next_still (rows : Rows ρ τ) : L.Still (l.next rows) := by
  cases rows with
  | waiting k sql =>
    refine (h.run k.engine sql).bind ?_
    rintro (_ | result)
    · exact .throw .noResult
    · exact h.readOn_still k result
  | reading k batch result =>
    cases batch with
    | nil => exact h.readOn_still k result
    | cons row batch => exact .pure _

/-- Closing a connection disposes of its engine, and of no other, even if it fails to close. -/
theorem closeConnection_moves (k : Connection) (j : Journal ε) :
    L.Moves [] [k.engine] j ((l.closeConnection k).outcome j).2 := by
  rw [closeConnection_journal]
  exact (h.close k.engine j).trans (h.dispose k.engine _)

/-- A connection that could not be opened leaves no engine that is not disposed of. -/
theorem openConnection_moves {url : String} {properties : Properties} {j j' : Journal ε}
    {error : Error} (ho : (l.openConnection url properties).outcome j = (.error error, j')) :
    ∃ os, os.length ≤ 1 ∧ L.Moves os os j j' := by
  rcases openConnection_error ho with
    ⟨rfl, -⟩ | ⟨address, size, -, -, hcreate | ⟨n, j₁, cause, j₂, hcreate, hconnect, rfl⟩⟩
  · exact ⟨[], by simp, .refl j'⟩
  · exact ⟨[], by simp, h.create_error hcreate⟩
  · have hmade := (h.create_ok hcreate).trans ((h.connect n).moves hconnect)
    exact ⟨[n], by simp, by simpa using hmade.trans (h.dispose n j₂)⟩

/-- The books of the engines are right about the connections. -/
theorem client_keeps : l.client.Keeps L where
  toSound := h.toSound
  connect_ok := by
    intro url properties j k j' hc
    obtain ⟨-, address, -, j₁, j₂, hcreate, hconnect, hnote⟩ := openConnection_ok hc
    have hmade := (h.create_ok hcreate).trans ((h.connect k.engine).moves hconnect)
    simpa [h.number] using hmade.trans ((h.note _).moves hnote)
  connect_error := h.openConnection_moves
  metadata _ := .pure ()
  storesUpper _ := .pure true
  schemas k := h.schemas k.engine schemasStatement
  tables _ _ _ _ _ := (h.tables _ _ _).bind fun _ => .ofExcept _ _
  columns _ _ _ _ := (h.columns _ _ _).bind fun _ => .ofExcept _ _
  setReadOnly k value := by
    cases value with
    | false => exact .pure ()
    | true => exact (h.run k.engine readOnlyStatement).map fun _ => ()
  execute _ _ := .pure _
  next := h.next_still
  stop rows := by
    cases rows with
    | waiting k sql => exact .pure ()
    | reading k batch result => exact h.closeResult k.engine result
  close k j := by
    rw [h.number]
    exact h.closeConnection_moves k j

end Keeps
end Library

def Event.creates : Event → Option Nat
  | .create n .. => some n
  | _ => none

def Event.disposes : Event → Option Nat
  | .dispose n => some n
  | _ => none

/-- A connection is booked as its engine: opened when the engine is created, closed when it is
disposed of. -/
def engines : Ledger Connection Event where
  number := Connection.engine
  opened j := j.events.filterMap Event.creates
  closed j := j.events.filterMap Event.disposes
  Valid j := j.events.filterMap Event.creates = List.range' 1 j.numbered

namespace Engine

variable (e : Engine τ)

theorem eq_of_create {address : String} {size : Int} {arguments : Properties} {n : Nat}
    {j j' : Journal Event} (h : (create address size arguments).outcome j = (.ok n, j')) :
    n = j.numbered + 1 ∧ j' = { j with
      events := j.events ++ [.create n address size arguments], numbered := n } := by
  cases h
  exact ⟨rfl, rfl⟩

theorem eq_of_call {event : Event} {p : Point} {j j' : Journal Event} {result : Except Error Unit}
    (h : (e.call event p).outcome j = (result, j')) :
    j' = { j with events := j.events ++ [event], calls := j.calls + 1 } :=
  (Prod.ext_iff.mp h).2.symm

/-- A result is closed in the same way wherever it was left. -/
theorem library_closeResult (engine : Nat) (result : Result τ) :
    e.library.closeResult engine result = e.closeResult engine := rfl

/-- No call fails. -/
structure Healthy : Prop where
  outage : e.outage = Outage.never
  failingBatch : e.failingBatch = none

theorem not_healthy_of_call {event : Event} {p : Point} {j j' : Journal Event} {error : Error}
    (h : (e.call event p).outcome j = (.error error, j')) : ¬e.Healthy := by
  intro hh
  rcases Run.bind_eq_error.mp h with he | ⟨_, j₁, -, hc⟩
  · cases he
  · rw [hh.outage] at hc
    cases hc

/-- What an engine was asked for while a connection was opened. -/
theorem openConnection_ok {url : String} {properties : Properties} {j j' : Journal Event}
    {k : Connection} (ho : (e.library.openConnection url properties).outcome j = (.ok k, j')) :
    Library.fetchSize properties = .ok k.fetchSize ∧ ∃ address, clientAddress url = .ok address ∧
      j'.events = j.events ++ [.create k.engine address k.fetchSize
        (Library.credentials properties), .connect k.engine] ∧
      k.engine = j.numbered + 1 ∧ j'.numbered = j.numbered + 1 := by
  obtain ⟨hsize, address, haddress, j₁, j₂, hcreate, hconnect, hnote⟩ :=
    Library.openConnection_ok ho
  obtain ⟨hengine, rfl⟩ := eq_of_create hcreate
  obtain rfl := eq_of_call e hconnect
  cases hnote
  exact ⟨hsize, address, haddress, by simp, hengine, hengine⟩

/-- A connection that could not be opened has no engine, since its size or its address cannot be
read, or one that was disposed of at once. -/
theorem openConnection_error {url : String} {properties : Properties} {j j' : Journal Event}
    {error : Error}
    (ho : (e.library.openConnection url properties).outcome j = (.error error, j')) :
    (j'.events = j.events ∧ j'.numbered = j.numbered ∧
      (Library.fetchSize properties = .error error ∨
        ∃ fault, clientAddress url = .error fault ∧ error = .address fault)) ∨
    ∃ engine address size, j'.events = j.events ++ [.create engine address size
        (Library.credentials properties), .connect engine, .dispose engine] ∧
      engine = j.numbered + 1 ∧ j'.numbered = j.numbered + 1 ∧
      Library.fetchSize properties = .ok size ∧ clientAddress url = .ok address ∧
      ¬e.Healthy := by
  rcases Library.openConnection_error ho with ⟨rfl, hfault⟩ |
    ⟨address, size, hsize, haddress, hcreate | ⟨n, j₁, cause, j₂, hcreate, hconnect, rfl⟩⟩
  · exact .inl ⟨rfl, rfl, hfault⟩
  · cases hcreate
  · obtain ⟨rfl, rfl⟩ := eq_of_create hcreate
    obtain rfl := eq_of_call e hconnect
    exact .inr ⟨_, address, size, by simp [library, dispose, Run.event], rfl, rfl, hsize,
      haddress, not_healthy_of_call e hconnect⟩

/-- A closed connection has its engine disposed of, even if it failed to close. -/
theorem closeConnection_journal (k : Connection) (j : Journal Event) :
    ((e.library.closeConnection k).outcome j).2 = { j with
      events := j.events ++ [.close k.engine, .dispose k.engine], calls := j.calls + 1 } := by
  rw [Library.closeConnection_journal]
  rcases hc : (e.close k.engine).outcome j with ⟨result, j₁⟩
  obtain rfl := eq_of_call e hc
  simp [library, hc, dispose, Run.event]

theorem event_moves {event : Event} (hc : event.creates = none) (j : Journal Event) :
    engines.Moves [] event.disposes.toList j ((Run.event event).outcome j).2 := by
  refine ⟨?_, ?_, ?_⟩
  · intro hv
    simpa [engines, Run.event, hc] using hv
  · simp [engines, Run.event, hc]
  · cases hd : event.disposes <;> simp [engines, Run.event, hd]

theorem event_still {event : Event} (hc : event.creates = none) (hd : event.disposes = none) :
    engines.Still (Run.event event) := by
  intro j
  simpa [hd] using event_moves hc j

theorem runCall_still (p : Point) : engines.Still (Run.call e.outage p) :=
  fun _ => ⟨id, (List.append_nil _).symm, (List.append_nil _).symm⟩

theorem call_still {event : Event} (hc : event.creates = none) (hd : event.disposes = none)
    (p : Point) : engines.Still (e.call event p) :=
  (event_still hc hd).bind fun _ => runCall_still e p

theorem run_still (engine : Nat) (sql : String) : engines.Still (e.run engine sql) :=
  (call_still e rfl rfl _).bind fun _ => .pure _

theorem fetch_still (engine : Nat) (size : Int) (result : Result τ) :
    engines.Still (e.fetch engine size result) := by
  have hread : engines.Still (do
      Run.call e.outage .fetchBatch
      return (result.rest.take size.toNat,
        (⟨result.rest.drop size.toNat, result.batches + 1⟩ : Result τ))) :=
    (runCall_still e .fetchBatch).bind fun _ => .pure _
  apply (event_still rfl rfl).bind
  intro _
  by_cases hf : e.failingBatch = some result.batches
  · rw [if_pos hf]
    exact .bind (.throw _) fun _ => hread
  · rw [if_neg hf]
    exact hread

theorem library_keeps : e.library.Keeps engines where
  valid_empty := rfl
  opened_empty := rfl
  closed_empty := rfl
  opened_nodup hv := by
    simp only [engines] at hv ⊢
    rw [hv]
    exact List.nodup_range'
  note _ _ := ⟨id, (List.append_nil _).symm, (List.append_nil _).symm⟩
  number _ := rfl
  create_ok := by
    intro address size arguments j n j' hc
    obtain ⟨rfl, rfl⟩ := eq_of_create hc
    refine ⟨?_, ?_, ?_⟩
    · intro hv
      simp only [engines] at hv ⊢
      simp [hv, Event.creates, List.range'_1_concat, Nat.add_comm]
    · simp [engines, Event.creates]
    · simp [engines, Event.disposes]
  create_error hc := by cases hc
  connect _ := call_still e rfl rfl .connect
  schemas _ _ := (call_still e rfl rfl .query).bind fun _ => .pure _
  tables _ _ _ := (call_still e rfl rfl .query).bind fun _ => .pure _
  columns _ _ _ := (call_still e rfl rfl .query).bind fun _ => .pure _
  run := run_still e
  fetch := fetch_still e
  closeResult _ _ := call_still e rfl rfl .closeResult
  close _ := call_still e rfl rfl .close
  dispose n := @event_moves (.dispose n) rfl

end Engine
end Oracle

theorem Connector.eq_of_ofConfig {config : Config} {e : Oracle.Engine τ}
    {c : Connector Oracle.Connection (Oracle.Rows τ) Oracle.Event τ}
    (h : Connector.ofConfig config e = .ok c) :
    c = .make config e.client Oracle.typeMapper Oracle.dialect Oracle.namePolicy := by
  unfold Connector.ofConfig at h
  split at h
  · cases h
    rfl
  · cases h

end Pushdown
