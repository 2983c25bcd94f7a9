import Mathlib.Data.List.Count
import Pushdown.Proofs.Run

/-!
Books about connections. A ledger reads from a journal which connections were opened and which
were closed; an operation is judged by what it adds to the two lists, whether it succeeds or fails.
-/
namespace Pushdown

/-- How connections `κ` are numbered, and which numbers a journal has seen opened and closed, in
order and as often as it happened. Journals that no client leaves need not be valid. -/
structure Ledger (κ ε : Type) where
  number : κ → Nat
  opened : Journal ε → List Nat
  closed : Journal ε → List Nat
  Valid : Journal ε → Prop

namespace Ledger

variable {κ ε α β : Type} (L : Ledger κ ε)

/-- From one journal to the next the connections `os` were opened and the connections `cs` closed. -/
structure Moves (os cs : List Nat) (j j' : Journal ε) : Prop where
  valid : L.Valid j → L.Valid j'
  opened : L.opened j' = L.opened j ++ os
  closed : L.closed j' = L.closed j ++ cs

/-- Whatever comes of the operation, it opens and closes nothing. -/
def Still (r : Run ε α) : Prop := ∀ j, L.Moves [] [] j (r.outcome j).2

/-- Nothing is booked at first, no connection is opened twice, and notes are not booked. -/
structure Sound : Prop where
  valid_empty : L.Valid .empty
  opened_empty : L.opened .empty = []
  closed_empty : L.closed .empty = []
  opened_nodup : ∀ {j}, L.Valid j → (L.opened j).Nodup
  note : ∀ n, L.Still (Run.note n)

/-- Whatever comes of the operation, it opens at most one connection and closes it once. -/
def Settles (r : Run ε α) : Prop := ∀ j, ∃ os, os.length ≤ 1 ∧ L.Moves os os j (r.outcome j).2

/-- Of the connections held before and those opened since, each is closed or still held. -/
def Trades (before after : List Nat) (j j' : Journal ε) : Prop :=
  ∃ os cs, L.Moves os cs j j' ∧ (before ++ os).Perm (cs ++ after)

/-- An operation that starts with `before` in its hands leaves `after` in those of its caller, and
nothing if it fails. -/
structure Passes (before : List Nat) (r : Run ε α) (after : α → List Nat) : Prop where
  ok : ∀ {j a j'}, r.outcome j = (.ok a, j') → L.Trades before (after a) j j'
  error : ∀ {j e j'}, r.outcome j = (.error e, j') → L.Trades before [] j j'

variable {L} {os cs os' cs' before between after rest : List Nat} {j j₁ j' : Journal ε}

theorem Moves.refl (j : Journal ε) : L.Moves [] [] j j :=
  ⟨id, (List.append_nil _).symm, (List.append_nil _).symm⟩

theorem Moves.trans (h : L.Moves os cs j j₁) (h' : L.Moves os' cs' j₁ j') :
    L.Moves (os ++ os') (cs ++ cs') j j' where
  valid := h'.valid ∘ h.valid
  opened := by rw [h'.opened, h.opened, List.append_assoc]
  closed := by rw [h'.closed, h.closed, List.append_assoc]

theorem Moves.trades (h : L.Moves os os j j') : L.Trades [] [] j j' :=
  ⟨os, os, h, by simp⟩

theorem Trades.trans (h : L.Trades before between j j₁) (h' : L.Trades between after j₁ j') :
    L.Trades before after j j' := by
  obtain ⟨os, cs, hm, hp⟩ := h
  obtain ⟨os', cs', hm', hp'⟩ := h'
  refine ⟨os ++ os', cs ++ cs', hm.trans hm', ?_⟩
  rw [← List.append_assoc, List.append_assoc cs]
  calc ((before ++ os) ++ os').Perm ((cs ++ between) ++ os') := hp.append_right os'
    _ = cs ++ (between ++ os') := List.append_assoc ..
    List.Perm _ (cs ++ (cs' ++ after)) := hp'.append_left cs

theorem Trades.perm {before' after' : List Nat} (h : L.Trades before after j j')
    (hb : before'.Perm before) (ha : after.Perm after') : L.Trades before' after' j j' := by
  obtain ⟨os, cs, hm, hp⟩ := h
  exact ⟨os, cs, hm, ((hb.append_right os).trans hp).trans (ha.append_left cs)⟩

theorem Still.moves {r : Run ε α} (hr : L.Still r) {result : Except Error α}
    (h : r.outcome j = (result, j')) : L.Moves [] [] j j' := by
  have hj := hr j
  rwa [h] at hj

theorem Still.trades {r : Run ε α} (hr : L.Still r) (j : Journal ε) :
    L.Trades [] [] j (r.outcome j).2 := (hr j).trades

/-- What others hold is not touched. -/
theorem Trades.frame (h : L.Trades before after j j') (rest : List Nat) :
    L.Trades (before ++ rest) (after ++ rest) j j' := by
  obtain ⟨os, cs, hm, hp⟩ := h
  refine ⟨os, cs, hm, ?_⟩
  rw [List.perm_iff_count] at hp ⊢
  intro n
  have hn := hp n
  simp only [List.count_append] at hn ⊢
  omega

section Operations

variable {r : Run ε α} {f : α → Run ε β}

theorem Still.pure (a : α) : L.Still (pure a : Run ε α) := Moves.refl

theorem Still.throw (e : Error) : L.Still (throw e : Run ε α) := Moves.refl

theorem Still.ofExcept (toError : β → Error) (x : Except β α) :
    L.Still (Run.ofExcept (ε := ε) toError x) := by
  cases x with
  | ok a => exact .pure a
  | error e => exact .throw (toError e)

/-- What follows a success adds nothing, and after a failure there is nothing that follows. -/
theorem Moves.bind (hr : L.Moves os cs j (r.outcome j).2) (hf : ∀ a, L.Still (f a)) :
    L.Moves os cs j ((r >>= f).outcome j).2 := by
  rw [Run.outcome_bind]
  rcases hj : r.outcome j with ⟨e | a, j₁⟩
  · rwa [hj] at hr
  · rw [hj] at hr
    simpa using hr.trans (hf a j₁)

theorem Still.bind (hr : L.Still r) (hf : ∀ a, L.Still (f a)) : L.Still (r >>= f) :=
  fun j => (hr j).bind hf

theorem Still.map (hr : L.Still r) (f : α → β) : L.Still (f <$> r) := by
  rw [map_eq_pure_bind]
  exact hr.bind fun a => .pure (f a)

theorem Still.onFailure {cleanup : Run ε Unit} (hr : L.Still r) (hc : L.Still cleanup) :
    L.Still (Run.onFailure r cleanup) := by
  intro j
  rcases ho : (Run.onFailure r cleanup).outcome j with ⟨e | a, j₁⟩
  · obtain ⟨e₁, j₂, hb, rfl⟩ := Run.exists_of_onFailure_eq_error ho
    exact (hr.moves hb).trans (hc j₂)
  · exact hr.moves (Run.onFailure_eq_ok.mp ho)

theorem Still.settles (hr : L.Still r) : L.Settles r := fun j => ⟨[], by simp, hr j⟩

theorem Settles.bind (hr : L.Settles r) (hf : ∀ a, L.Still (f a)) : L.Settles (r >>= f) := by
  intro j
  obtain ⟨os, hos, hj⟩ := hr j
  exact ⟨os, hos, hj.bind hf⟩

theorem Settles.map (hr : L.Settles r) (f : α → β) : L.Settles (f <$> r) := by
  rw [map_eq_pure_bind]
  exact hr.bind fun a => .pure (f a)

/-- An operation that hands nothing over is judged by its journal alone. -/
theorem Passes.of_trades (h : ∀ j, L.Trades before [] j (r.outcome j).2) :
    L.Passes before r fun _ => [] where
  ok := by
    intro j a j' ho
    have hj := h j
    rwa [ho] at hj
  error := by
    intro j e j' ho
    have hj := h j
    rwa [ho] at hj

theorem Settles.passes (hr : L.Settles r) : L.Passes [] r fun _ => [] := by
  apply Passes.of_trades
  intro j
  obtain ⟨os, -, hj⟩ := hr j
  exact hj.trades

theorem Passes.bind {m : α → List Nat} {q : β → List Nat} (hr : L.Passes before r m)
    (hf : ∀ a, L.Passes (m a) (f a) q) : L.Passes before (r >>= f) q where
  ok := by
    intro j b j' h
    obtain ⟨a, j₁, hr₁, hf₁⟩ := Run.bind_eq_ok.mp h
    exact (hr.ok hr₁).trans ((hf a).ok hf₁)
  error := by
    intro j e j' h
    rcases Run.bind_eq_error.mp h with hr₁ | ⟨a, j₁, hr₁, hf₁⟩
    · exact hr.error hr₁
    · exact (hr.ok hr₁).trans ((hf a).error hf₁)

theorem Passes.pure (a : α) (q : α → List Nat) : L.Passes (q a) (pure a : Run ε α) q where
  ok := by
    intro j b j' h
    cases h
    exact ⟨[], [], .refl j, by simp⟩
  error := by
    intro j e j' h
    cases h

theorem Passes.map {f : α → β} {q : β → List Nat} (hr : L.Passes before r fun a => q (f a)) :
    L.Passes before (f <$> r) q := by
  rw [map_eq_pure_bind]
  exact hr.bind fun a => .pure (f a) q

end Operations
end Ledger
end Pushdown
