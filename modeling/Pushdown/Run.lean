import Pushdown.Error

/-!
Operations on a database. An operation extends the journal, whether it succeeds or fails; what it
did before a failure stays on record.
-/
namespace Pushdown

/-- What has happened so far: the calls the database saw, the notes taken, how many calls could
have failed, and how many connections or engines were numbered. -/
structure Journal (ε : Type) where
  events : List ε
  notes : List Note
  calls : Nat
  numbered : Nat
  deriving DecidableEq

def Journal.empty {ε : Type} : Journal ε := ⟨[], [], 0, 0⟩

/-- Which calls fail: the number of a call and what is called decide. -/
abbrev Outage := Nat → Point → Bool

/-- No call fails. -/
def Outage.never : Outage := fun _ _ => false

/-- Every call of the given points fails. -/
def Outage.always (points : List Point) : Outage := fun _ p => points.contains p

abbrev Run (ε α : Type) := ExceptT Error (StateM (Journal ε)) α

namespace Run

variable {ε α : Type}

/-- The outcome of an operation and the journal it leaves. -/
def outcome (r : Run ε α) (j : Journal ε) : Except Error α × Journal ε := (r.run).run j

def ofOutcome (f : Journal ε → Except Error α × Journal ε) : Run ε α :=
  ExceptT.mk fun j => f j

@[simp] theorem outcome_ofOutcome (f : Journal ε → Except Error α × Journal ε) (j : Journal ε) :
    (ofOutcome f).outcome j = f j := rfl

@[simp] theorem outcome_pure (a : α) (j : Journal ε) :
    (pure a : Run ε α).outcome j = (.ok a, j) := rfl

@[simp] theorem outcome_throw (e : Error) (j : Journal ε) :
    (throw e : Run ε α).outcome j = (.error e, j) := rfl

/-- What follows a failure is not run. -/
theorem outcome_bind {β : Type} (r : Run ε α) (f : α → Run ε β) (j : Journal ε) :
    (r >>= f).outcome j = match r.outcome j with
      | (.ok a, j) => (f a).outcome j
      | (.error e, j) => (.error e, j) := by
  unfold outcome ExceptT.run StateT.run
  simp only [bind, ExceptT.bind, ExceptT.mk, StateT.bind, ExceptT.bindCont]
  cases r j with
  | mk result j => cases result <;> rfl

def event (e : ε) : Run ε Unit :=
  ofOutcome fun j => (.ok (), { j with events := j.events ++ [e] })

def note (n : Note) : Run ε Unit :=
  ofOutcome fun j => (.ok (), { j with notes := j.notes ++ [n] })

/-- A call that may fail. -/
def call (outage : Outage) (p : Point) : Run ε Unit :=
  ofOutcome fun j =>
    (if outage j.calls p then .error (.failed p) else .ok (), { j with calls := j.calls + 1 })

/-- Takes the next number. -/
def number : Run ε Nat :=
  ofOutcome fun j => (.ok (j.numbered + 1), { j with numbered := j.numbered + 1 })

def ofExcept {β : Type} (toError : β → Error) : Except β α → Run ε α
  | .ok a => pure a
  | .error e => throw (toError e)

/-- Runs the cleanup after the body, whatever came of the body. A failure of the cleanup takes the
place of the body's outcome. -/
def ensuring (body : Run ε α) (cleanup : Run ε Unit) : Run ε α :=
  ofOutcome fun j =>
    let (result, j) := body.outcome j
    let (cleaned, j) := cleanup.outcome j
    match cleaned with
    | .ok () => (result, j)
    | .error e => (.error e, j)

/-- Runs the cleanup if the body fails; a failure of the cleanup takes the place of the first. Every
`Error` is an ordinary exception, which a handler for exceptions catches. What passes such a handler
by, as an interrupt or the end of the process does, is not an `Error` and is left out. -/
def onFailure (body : Run ε α) (cleanup : Run ε Unit) : Run ε α :=
  ofOutcome fun j =>
    match body.outcome j with
    | (.ok a, j) => (.ok a, j)
    | (.error e, j) =>
      match cleanup.outcome j with
      | (.ok (), j) => (.error e, j)
      | (.error e, j) => (.error e, j)

end Run
end Pushdown
