import Pushdown.Run

/-!
What an operation on a database was made of, read from its outcome.
-/
namespace Pushdown.Run

variable {ε α β : Type} {r : Run ε α} {f : α → Run ε β} {j j' : Journal ε}

theorem outcome_bind_of_ok {a : α} {j₁ : Journal ε} (h : r.outcome j = (.ok a, j₁)) :
    (r >>= f).outcome j = (f a).outcome j₁ := by
  rw [outcome_bind, h]

theorem outcome_bind_of_error {e : Error} {j₁ : Journal ε} (h : r.outcome j = (.error e, j₁)) :
    (r >>= f).outcome j = (.error e, j₁) := by
  rw [outcome_bind, h]

/-- A sequence succeeds when both of its parts do, the second where the first left off. -/
theorem bind_eq_ok {b : β} : (r >>= f).outcome j = (.ok b, j') ↔
    ∃ a j₁, r.outcome j = (.ok a, j₁) ∧ (f a).outcome j₁ = (.ok b, j') := by
  rw [outcome_bind]
  rcases r.outcome j with ⟨e | a, j₁⟩
  · simp
  · constructor
    · exact fun h => ⟨a, j₁, rfl, h⟩
    · rintro ⟨_, _, hr, h⟩
      cases hr
      exact h

/-- A sequence fails in its first part, or in its second after the first succeeded. -/
theorem bind_eq_error {e : Error} : (r >>= f).outcome j = (.error e, j') ↔
    r.outcome j = (.error e, j') ∨
      ∃ a j₁, r.outcome j = (.ok a, j₁) ∧ (f a).outcome j₁ = (.error e, j') := by
  rw [outcome_bind]
  rcases r.outcome j with ⟨e | a, j₁⟩
  · simp
  · constructor
    · exact fun h => .inr ⟨a, j₁, rfl, h⟩
    · rintro (hr | ⟨_, _, hr, h⟩)
      · cases hr
      · cases hr
        exact h

theorem eq_of_ofExcept {γ : Type} {toError : γ → Error} {x : Except γ α} {result : Except Error α}
    (h : (ofExcept toError x).outcome j = (result, j')) : j' = j := by
  cases x with
  | error e => exact (Prod.ext_iff.mp h).2.symm
  | ok a => exact (Prod.ext_iff.mp h).2.symm

theorem ofExcept_eq_ok {γ : Type} {toError : γ → Error} {x : Except γ α} {a : α}
    (h : (ofExcept toError x).outcome j = (.ok a, j')) : x = .ok a := by
  cases x with
  | error e => cases h
  | ok b =>
    cases h
    rfl

theorem ofExcept_eq_error {γ : Type} {toError : γ → Error} {x : Except γ α} {e : Error}
    (h : (ofExcept toError x).outcome j = (.error e, j')) : ∃ fault, x = .error fault ∧
      toError fault = e := by
  cases x with
  | ok a => cases h
  | error fault =>
    cases h
    exact ⟨fault, rfl, rfl⟩

/-- The cleanup starts from what the body left, whatever came of the body. -/
theorem journal_ensuring (body : Run ε α) (cleanup : Run ε Unit) (j : Journal ε) :
    ((ensuring body cleanup).outcome j).2 = (cleanup.outcome (body.outcome j).2).2 := by
  unfold ensuring
  rw [outcome_ofOutcome]
  rcases hb : body.outcome j with ⟨result, j₁⟩
  rcases hc : cleanup.outcome j₁ with ⟨e | _, j₂⟩ <;> simp [hc]

theorem exists_of_ensuring_eq_ok {body : Run ε α} {cleanup : Run ε Unit} {a : α}
    (h : (ensuring body cleanup).outcome j = (.ok a, j')) :
    ∃ j₁, body.outcome j = (.ok a, j₁) := by
  unfold ensuring at h
  rw [outcome_ofOutcome] at h
  rcases hb : body.outcome j with ⟨result, j₁⟩
  rcases hc : cleanup.outcome j₁ with ⟨e | _, j₂⟩
  all_goals
    simp only [hb, hc] at h
    cases h
  exact ⟨j₁, rfl⟩

theorem onFailure_eq_ok {body : Run ε α} {cleanup : Run ε Unit} {a : α} :
    (onFailure body cleanup).outcome j = (.ok a, j') ↔ body.outcome j = (.ok a, j') := by
  unfold onFailure
  rw [outcome_ofOutcome]
  rcases body.outcome j with ⟨e | a, j₁⟩
  · rcases hc : cleanup.outcome j₁ with ⟨e' | _, j₂⟩ <;> simp [hc]
  · simp

/-- After a failure the cleanup has run once, from what the body left. -/
theorem exists_of_onFailure_eq_error {body : Run ε α} {cleanup : Run ε Unit} {e : Error}
    (h : (onFailure body cleanup).outcome j = (.error e, j')) :
    ∃ e₁ j₁, body.outcome j = (.error e₁, j₁) ∧ (cleanup.outcome j₁).2 = j' := by
  unfold onFailure at h
  rw [outcome_ofOutcome] at h
  rcases hb : body.outcome j with ⟨e₁ | a, j₁⟩
  · refine ⟨e₁, j₁, rfl, ?_⟩
    rcases hc : cleanup.outcome j₁ with ⟨e₂ | _, j₂⟩
    all_goals
      simp only [hb, hc] at h
      exact (Prod.ext_iff.mp h).2
  · simp only [hb] at h
    cases h

theorem outcome_of_fst {result : Except Error α} (h : (r.outcome j).1 = result) :
    r.outcome j = (result, (r.outcome j).2) := Prod.ext h rfl

theorem ext {r r' : Run ε α} (h : ∀ j, r.outcome j = r'.outcome j) : r = r' := funext h

/-- What comes next depends only on what was given before it. -/
theorem bind_congr {f g : α → Run ε β} (h : ∀ j a j', r.outcome j = (.ok a, j') → f a = g a) :
    r >>= f = r >>= g := by
  apply ext
  intro j
  rw [outcome_bind, outcome_bind]
  rcases hr : r.outcome j with ⟨e | a, j₁⟩
  · rfl
  · simp only [h j a j₁ hr]

/-- Whatever has happened before, the operation gives this result. -/
def Gives (r : Run ε α) (result : Except Error α) : Prop := ∀ j, (r.outcome j).1 = result

namespace Gives

variable {result : Except Error α}

theorem eq (h : r.Gives result) {x : Except Error α} (ho : r.outcome j = (x, j')) : x = result := by
  rw [← h j, ho]

theorem pure (a : α) : (pure a : Run ε α).Gives (.ok a) := fun _ => rfl

theorem throw (e : Error) : (throw e : Run ε α).Gives (.error e) := fun _ => rfl

theorem note (n : Note) : (Run.note n : Run ε Unit).Gives (.ok ()) := fun _ => rfl

theorem bind {a : α} {result : Except Error β} (hr : r.Gives (.ok a)) (hf : (f a).Gives result) :
    (r >>= f).Gives result := by
  intro j
  rw [outcome_bind]
  rcases ho : r.outcome j with ⟨x, j₁⟩
  obtain rfl := hr.eq ho
  exact hf j₁

theorem ensuring {cleanup : Run ε Unit} (hr : r.Gives result) (hc : cleanup.Gives (.ok ())) :
    (Run.ensuring r cleanup).Gives result := by
  intro j
  unfold Run.ensuring
  rw [outcome_ofOutcome]
  rcases ho : r.outcome j with ⟨x, j₁⟩
  rcases hk : cleanup.outcome j₁ with ⟨y, j₂⟩
  obtain rfl := hr.eq ho
  obtain rfl := hc.eq hk
  simp [hk]

end Gives
end Pushdown.Run
