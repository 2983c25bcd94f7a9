import Pushdown.Proofs.Batches
import Pushdown.Proofs.Resolution

/-!
The connection of a scan. Its engine sees one sequence of calls, up to where the scan stands; a
connection that cannot be opened leaves no engine open.
-/
namespace Pushdown.Oracle

variable {τ : Type}

/-- The connector of a configuration, with the database as it stands. -/
def connector (config : Config) (e : Engine τ) : Connector Connection (Rows τ) Event τ :=
  .make config e.client typeMapper dialect namePolicy

/-- What has become of a scan. -/
inductive Fate
  | going
  | ended
  | failed (e : Error)
  | left
  deriving DecidableEq

/-- What an engine sees when it is connected to. -/
def opening (n : Nat) (address : String) (size : Int) (arguments : Properties) : List Event :=
  [.create n address size arguments, .connect n]

/-- What an engine sees of the statements of a scan. -/
def statements (n : Nat) (sql : String) : List Event :=
  [.statement n readOnlyStatement, .statement n sql]

/-- What an engine sees when a connection to it is closed. -/
def closing (n : Nat) : List Event := [.close n, .dispose n]

/-- What the engine of a scan sees, up to where the scan stands. -/
inductive Trail (sql : String) (size : Int) (n : Nat) : Fate → List Event → Prop
  | unconnected {address arguments error} :
    Trail sql size n (.failed error) (opening n address size arguments ++ [.dispose n])
  | writable {address arguments error} : Trail sql size n (.failed error)
    (opening n address size arguments ++ .statement n readOnlyStatement :: closing n)
  | refused {address arguments error} : Trail sql size n (.failed error)
    (opening n address size arguments ++ statements n sql ++ closing n)
  | reading {address arguments} (batches : Nat) : Trail sql size n .going
    (opening n address size arguments ++ statements n sql ++
      List.replicate batches (.fetch n size))
  | closed {address arguments fate} (batches : Nat) (hover : fate ≠ .going) : Trail sql size n fate
    (opening n address size arguments ++ statements n sql ++
      List.replicate batches (.fetch n size) ++ .closeResult n :: closing n)

/-- The engine that an event is about. -/
def Event.engine : Event → Nat
  | .create n .. | .connect n | .query n .. | .statement n _ | .fetch n _ | .closeResult n
  | .close n | .dispose n => n

theorem Trail.engine {sql : String} {size : Int} {n : Nat} {fate : Fate} {events : List Event}
    (h : Trail sql size n fate events) : ∀ event ∈ events, event.engine = n := by
  intro event hevent
  cases h <;> simp only [opening, statements, closing, List.mem_append, List.mem_cons,
    List.mem_replicate, List.not_mem_nil, or_false] at hevent
  all_goals grind [Event.engine]

theorem Trail.ne_nil {sql : String} {size : Int} {n : Nat} {fate : Fate} {events : List Event}
    (h : Trail sql size n fate events) : events ≠ [] := by
  cases h <;> simp [opening]

theorem Trail.fetch {sql : String} {size : Int} {n : Nat} {events : List Event}
    (h : Trail sql size n .going events) (batches : Nat) :
    Trail sql size n .going (events ++ List.replicate batches (.fetch n size)) := by
  cases h with
  | reading before =>
    rw [List.append_assoc, List.replicate_append_replicate]
    exact .reading (before + batches)
  | closed before hover => exact absurd rfl hover

theorem Trail.close {sql : String} {size : Int} {n : Nat} {events : List Event} {fate : Fate}
    (h : Trail sql size n .going events) (hover : fate ≠ .going) (batches : Nat) :
    Trail sql size n fate
      (events ++ (List.replicate batches (.fetch n size) ++ .closeResult n :: closing n)) := by
  have hfetched := h.fetch batches
  rw [← List.append_assoc]
  generalize events ++ List.replicate batches (.fetch n size) = seen at hfetched
  cases hfetched with
  | reading before => exact .closed before hover
  | closed before hgoing => exact absurd rfl hgoing

variable {config : Config} {e : Engine τ} {k : Connection} {j j' : Journal Event}

@[simp] theorem connector_client : (connector config e).client = e.client := rfl

@[simp] theorem connector_config : (connector config e).config = config := rfl

@[simp] theorem connector_style :
    (connector config e).style = ⟨dialect, config.identifierQuote⟩ := rfl

@[simp] theorem client_connect : e.client.connect = e.library.openConnection := rfl

@[simp] theorem client_close : e.client.close = e.library.closeConnection := rfl

@[simp] theorem client_next : e.client.next = e.library.next := rfl

namespace Engine

theorem not_isSetup_of_scan {style : SqlStyle} {table : TableHandle} {columns : List Column}
    {predicates : Predicates} {sql : String} (h : style.scan table columns predicates = .ok sql) :
    isSetup sql = false := by
  obtain ⟨conditions, -, rfl⟩ := SqlStyle.scan_eq_ok h
  simp only [isSetup, startsWith, String.toList_append, List.append_assoc]
  rfl

theorem setReadOnly_cases {x : Except Error Unit}
    (h : (e.client.setReadOnly k true).outcome j = (x, j')) :
    Sees [.statement k.engine readOnlyStatement] j j' ∧
      (x = .ok () ∨ ∃ error, x = .error error ∧ ¬e.Healthy) := by
  have hrun : e.client.setReadOnly k true =
      (e.run k.engine readOnlyStatement >>= fun _ => pure ()) := rfl
  rw [hrun] at h
  rcases hr : (e.run k.engine readOnlyStatement).outcome j with ⟨y, j₁⟩
  obtain ⟨hsees, rfl | ⟨error, rfl, hsick⟩⟩ := run_cases hr
  · rw [Run.outcome_bind_of_ok hr] at h
    cases h
    exact ⟨hsees, .inl rfl⟩
  · rw [Run.outcome_bind_of_error hr] at h
    cases h
    exact ⟨hsees, .inr ⟨error, rfl, hsick⟩⟩

/-- A connection that cannot be made read-only is closed. -/
theorem setReadOnly_or_close_cases {x : Except Error Unit}
    (h : (Run.onFailure (e.client.setReadOnly k true) (e.library.closeConnection k)).outcome j = (x, j')) :
    x = .ok () ∧ Sees [.statement k.engine readOnlyStatement] j j' ∨
      ∃ error, x = .error error ∧ ¬e.Healthy ∧
        Sees (.statement k.engine readOnlyStatement :: closing k.engine) j j' := by
  cases x with
  | ok =>
    obtain ⟨hsees, -⟩ := setReadOnly_cases (Run.onFailure_eq_ok.mp h)
    exact .inl ⟨rfl, hsees⟩
  | error error =>
    obtain ⟨_, j₁, hset, hj⟩ := Run.exists_of_onFailure_eq_error h
    obtain ⟨hsees, hx | ⟨_, -, hsick⟩⟩ := setReadOnly_cases hset
    · cases hx
    rcases hc : (e.library.closeConnection k).outcome j₁ with ⟨x, j₂⟩
    rw [hc] at hj
    obtain rfl := hj
    exact .inr ⟨error, rfl, hsick, hsees.trans (closeConnection_sees hc)⟩

end Engine

/-- The fetch size can be read back from its text, as any that an environment gives. -/
def ReadsSize (config : Config) : Prop :=
  (Nat.toDigits 10 config.fetchSize).length ≤ maxNumeralDigits

instance : Decidable (ReadsSize config) := inferInstanceAs (Decidable (_ ≤ _))

theorem readsSize_of_ofEnv {env : EnvFile.Environment} {file? : Option String} {start : String}
    (h : Config.ofEnv env file? start = .ok config) : ReadsSize config :=
  (Nat.length_toDigits_le_iff (by decide) (by decide)).mpr (Config.fetchSize_lt_of_ofEnv h)

theorem Sees.fresh {events seen : List Event} {j j₁ j' : Journal Event}
    (hj : j₁.events = j.events ++ events) (h : Sees seen j₁ j') :
    j'.events = j.events ++ (events ++ seen) := by
  rw [h.1, hj, List.append_assoc]

/-- A connection for a scan is that of a new engine, and has been made read-only. If there is none,
its engine was disposed of, or there was no engine since there was no address. -/
theorem openConnection_cases {endpoint : Endpoint} {x : Except Error Connection}
    (h : ((connector config e).openConnection endpoint).outcome j = (x, j')) :
    (∃ error, x = .error error ∧ Sees [] j j' ∧ (ReadsSize config →
      ∃ fault, clientAddress endpoint.url = .error fault ∧ error = .address fault)) ∨
    j'.numbered = j.numbered + 1 ∧ (∃ address, clientAddress endpoint.url = .ok address) ∧
      ((∃ error events, x = .error error ∧ ¬e.Healthy ∧ j'.events = j.events ++ events ∧
        ∀ sql, Trail sql config.fetchSize (j.numbered + 1) (.failed error) events) ∨
      ∃ k address arguments, x = .ok k ∧ k.engine = j.numbered + 1 ∧
        k.fetchSize = config.fetchSize ∧ j'.events = j.events ++
          (opening k.engine address config.fetchSize arguments ++
            [.statement k.engine readOnlyStatement])) := by
  have hread : ∀ {size}, Library.fetchSize (endpoint.properties.put Properties.fetchSizeKey
      (toString config.fetchSize)) = .ok size → size = config.fetchSize := by
    intro size hs
    rcases Library.fetchSize_put_eq hs with hs | ⟨-, _, hs⟩ <;> cases hs
    rfl
  unfold Connector.openConnection at h
  simp only [connector_client, connector_config, client_connect, client_close] at h
  rcases ho : (e.library.openConnection endpoint.url (endpoint.properties.put Properties.fetchSizeKey
    (toString config.fetchSize))).outcome j with ⟨error | k, j₁⟩
  · rw [Run.outcome_bind_of_error ho] at h
    cases h
    rcases Engine.openConnection_error e ho with
      ⟨hevents, hn, hsize | hfault⟩ | ⟨n, address, size, hevents, rfl, hn, hsize, ha, hsick⟩
    · refine .inl ⟨error, rfl, ⟨by simp [hevents], hn⟩, fun hshort => ?_⟩
      rcases Library.fetchSize_put_eq hsize with hx | ⟨hlong, -⟩
      · cases hx
      · exact absurd hshort (by unfold ReadsSize; omega)
    · exact .inl ⟨error, rfl, ⟨by simp [hevents], hn⟩, fun _ => hfault⟩
    · obtain rfl := hread hsize
      exact .inr ⟨hn, ⟨address, ha⟩, .inl ⟨error, _, rfl, hsick, hevents, fun sql => .unconnected⟩⟩
  · rw [Run.outcome_bind_of_ok ho] at h
    obtain ⟨hsize, address, ha, hevents, hk, hn⟩ := Engine.openConnection_ok e ho
    have hsize := hread hsize
    rw [hsize] at hevents
    rcases hr : (Run.onFailure (e.client.setReadOnly k true) (e.library.closeConnection k)).outcome j₁ with
      ⟨x, j₂⟩
    rcases Engine.setReadOnly_or_close_cases hr with
      ⟨rfl, hsees⟩ | ⟨error, rfl, hsick, hsees⟩
    · rw [Run.outcome_bind_of_ok hr] at h
      cases h
      exact .inr ⟨hsees.2.trans hn, ⟨address, ha⟩, .inr ⟨k, address, _, rfl, hk, hsize,
        hsees.fresh hevents⟩⟩
    · rw [Run.outcome_bind_of_error hr] at h
      cases h
      refine .inr ⟨hsees.2.trans hn, ⟨address, ha⟩, .inl ⟨error, _, rfl, hsick,
        hsees.fresh hevents, fun sql => ?_⟩⟩
      rw [← hk]
      exact .writable

end Pushdown.Oracle
