import Pushdown.Proofs.Backends
import Pushdown.Proofs.Numeral

/-!
What an engine sees while the rows of a statement are read from it. A row comes from the batch at
hand, or from the next one; after an empty batch, or a failure, the result is closed.
-/
namespace Pushdown

theorem Named.lookup_put {α : Type} (xs : Named α) (name : String) (value : α) :
    (xs.put name value).lookup name = some value := by
  unfold put
  split
  · rename_i hset
    induction xs with
    | nil => simp at hset
    | cons x xs ih =>
      obtain ⟨n, v⟩ := x
      by_cases hn : n = name
      · simp [hn]
      · have hne : (name == n) = false := by simpa using Ne.symm hn
        simp only [List.lookup_cons, hne] at hset
        simp only [List.map_cons, hn, ↓reduceIte, List.lookup_cons, hne]
        exact ih hset
  · rename_i hnone
    simp only [Bool.not_eq_true, Option.isSome_eq_false_iff, Option.isNone_iff_eq_none] at hnone
    simp [List.lookup_append, hnone]

namespace Oracle

variable {τ : Type}

/-- Some events were recorded and nothing was numbered. -/
def Sees (events : List Event) (j j' : Journal Event) : Prop :=
  j'.events = j.events ++ events ∧ j'.numbered = j.numbered

theorem Sees.trans {xs ys : List Event} {j j₁ j₂ : Journal Event} (hx : Sees xs j j₁)
    (hy : Sees ys j₁ j₂) : Sees (xs ++ ys) j j₂ :=
  ⟨by rw [hy.1, hx.1, List.append_assoc], hy.2.trans hx.2⟩

namespace Library

theorem fetchSize_put (properties : Properties) (n : Nat) :
    fetchSize (properties.put Properties.fetchSizeKey (toString n)) =
      if maxNumeralDigits < (Nat.toDigits 10 n).length
      then .error (.fetchSize (toString n) (.tooManyDigits (Nat.toDigits 10 n).length))
      else .ok n := by
  have hread : readInteger (toString n).toList = _ :=
    (congrArg readInteger Nat.toList_repr).trans (readInteger_toDigits n)
  rw [fetchSize, Named.lookup_put]
  by_cases hd : maxNumeralDigits < (Nat.toDigits 10 n).length
  · rw [if_pos hd] at hread ⊢
    simp only [hread]
  · rw [if_neg hd] at hread ⊢
    simp only [hread]

/-- A size that is not too long is read back from the properties. -/
theorem fetchSize_put_eq {properties : Properties} {n : Nat} {x : Except Error Int}
    (h : fetchSize (properties.put Properties.fetchSizeKey (toString n)) = x) :
    x = .ok n ∨ (maxNumeralDigits < (Nat.toDigits 10 n).length ∧ ∃ error, x = .error error) := by
  rw [fetchSize_put] at h
  split at h
  · exact .inr ⟨‹_›, _, h.symm⟩
  · exact .inl h.symm

end Library

namespace Engine

variable {e : Engine τ} {k : Connection} {event : Event} {p : Point} {result : Result τ}
  {j j' : Journal Event} {error : Error}

theorem call_sees {x : Except Error Unit} (h : (e.call event p).outcome j = (x, j')) :
    Sees [event] j j' := by
  obtain rfl := eq_of_call e h
  exact ⟨rfl, rfl⟩

theorem closeConnection_sees {x : Except Error Unit}
    (h : (e.library.closeConnection k).outcome j = (x, j')) :
    Sees [.close k.engine, .dispose k.engine] j j' := by
  have hj := closeConnection_journal e k j
  rw [h] at hj
  obtain rfl := hj
  exact ⟨rfl, rfl⟩

theorem not_healthy_of_closeConnection
    (h : (e.library.closeConnection k).outcome j = (.error error, j')) : ¬e.Healthy := by
  intro hh
  unfold Library.closeConnection Run.ensuring at h
  rw [Run.outcome_ofOutcome] at h
  rcases hc : (e.library.close k.engine).outcome j with ⟨x | _, j₁⟩
  · exact not_healthy_of_call e hc hh
  · simp only [hc] at h
    cases h

/-- A batch has the next rows of a result, which is left without them. -/
theorem fetch_cases {size : Int} {x : Except Error (List τ × Result τ)}
    (h : (e.fetch k.engine size result).outcome j = (x, j')) :
    Sees [.fetch k.engine size] j j' ∧
      (x = .ok (result.rest.take size.toNat,
          ⟨result.rest.drop size.toNat, result.batches + 1⟩) ∨
        ∃ error, x = .error error ∧ ¬e.Healthy) := by
  unfold fetch at h
  rw [Run.outcome_bind] at h
  by_cases hf : e.failingBatch = some result.batches
  · simp only [Run.event, Run.outcome_ofOutcome, if_pos hf, Run.outcome_bind,
      Run.outcome_throw] at h
    cases h
    refine ⟨⟨rfl, rfl⟩, .inr ⟨_, rfl, fun hh => ?_⟩⟩
    rw [hh.failingBatch] at hf
    cases hf
  · simp only [Run.event, Run.outcome_ofOutcome, if_neg hf, Run.outcome_bind, Run.call] at h
    by_cases ho : e.outage j.calls .fetchBatch = true
    · simp only [ho, ↓reduceIte] at h
      cases h
      refine ⟨⟨rfl, rfl⟩, .inr ⟨_, rfl, fun hh => ?_⟩⟩
      rw [hh.outage] at ho
      cases ho
    · simp only [ho, Bool.false_eq_true, ↓reduceIte, Run.outcome_pure] at h
      cases h
      exact ⟨⟨rfl, rfl⟩, .inl rfl⟩

/-- A row comes from the next batch, unless there is none left or the batch cannot be fetched; then
the result is closed. -/
theorem readOn_cases (hsize : 0 < k.fetchSize) {x : Except Error (Option (τ × Rows τ))}
    (h : (e.library.readOn k result).outcome j = (x, j')) :
    let fetch : Event := .fetch k.engine k.fetchSize
    (∃ row rest left, result.rest = row :: (rest ++ left.rest) ∧
      x = .ok (some (row, .reading k rest left)) ∧ Sees [fetch] j j') ∨
    (x = .ok none ∧ result.rest = [] ∧ Sees [fetch, .closeResult k.engine] j j') ∨
    ∃ error, x = .error error ∧ ¬e.Healthy ∧ Sees [fetch, .closeResult k.engine] j j' := by
  intro fetch
  have hsplit : result.rest.take k.fetchSize.toNat ++ result.rest.drop k.fetchSize.toNat =
      result.rest := List.take_append_drop ..
  unfold Library.readOn at h
  rw [Run.outcome_bind] at h
  rcases hf : (Run.onFailure (e.library.fetch k.engine k.fetchSize result)
    (e.library.closeResult k.engine result)).outcome j with ⟨error | ⟨found, rest⟩, j₁⟩
  · obtain ⟨_, j₂, hfetch, hj⟩ := Run.exists_of_onFailure_eq_error hf
    obtain ⟨hsees, hx | ⟨_, -, hsick⟩⟩ := fetch_cases hfetch
    · cases hx
    · rcases hc : (e.library.closeResult k.engine result).outcome j₂ with ⟨x, j₃⟩
      rw [hc] at hj
      obtain rfl := hj
      rw [hf] at h
      cases h
      exact .inr (.inr ⟨error, rfl, hsick, hsees.trans (call_sees hc)⟩)
  · rw [hf] at h
    obtain ⟨hsees, hx | ⟨_, hx, -⟩⟩ := fetch_cases (Run.onFailure_eq_ok.mp hf)
    · cases hx
      rcases hb : result.rest.take k.fetchSize.toNat with _ | ⟨row, rest⟩
      · have hnone : result.rest = [] := by
          have hpos : k.fetchSize.toNat ≠ 0 := by omega
          simpa [hpos] using hb
        simp only [hb, library_closeResult] at h
        rcases hc : (e.closeResult k.engine).outcome j₁ with ⟨error | _, j₂⟩
        · simp only [Run.outcome_bind, hc] at h
          cases h
          exact .inr (.inr ⟨error, rfl, not_healthy_of_call e hc, hsees.trans (call_sees hc)⟩)
        · simp only [Run.outcome_bind, hc] at h
          cases h
          exact .inr (.inl ⟨rfl, hnone, hsees.trans (call_sees hc)⟩)
      · simp only [hb] at h
        cases h
        rw [hb] at hsplit
        exact .inl ⟨row, rest, _, by simpa using hsplit.symm, rfl, hsees⟩
    · cases hx

/-- The next row is the first of those left in the batch and in the result. -/
theorem next_cases (hsize : 0 < k.fetchSize) {batch : List τ}
    {x : Except Error (Option (τ × Rows τ))}
    (h : (e.library.next (.reading k batch result)).outcome j = (x, j')) :
    let fetch : Event := .fetch k.engine k.fetchSize
    (∃ row rest left batches, batch ++ result.rest = row :: (rest ++ left.rest) ∧
      x = .ok (some (row, .reading k rest left)) ∧ Sees (List.replicate batches fetch) j j') ∨
    Sees [fetch, .closeResult k.engine] j j' ∧
      (x = .ok none ∧ batch ++ result.rest = [] ∨ ∃ error, x = .error error ∧ ¬e.Healthy) := by
  intro fetch
  cases batch with
  | nil =>
    rcases readOn_cases hsize h with
      ⟨row, rest, left, hrest, hx, hsees⟩ | ⟨hx, hrest, hsees⟩ | ⟨error, hx, hsick, hsees⟩
    · exact .inl ⟨row, rest, left, 1, hrest, hx, hsees⟩
    · exact .inr ⟨hsees, .inl ⟨hx, hrest⟩⟩
    · exact .inr ⟨hsees, .inr ⟨error, hx, hsick⟩⟩
  | cons row rest =>
    cases h
    exact .inl ⟨row, rest, result, 0, rfl, rfl, by simp, rfl⟩

/-- A statement with rows has those that the engine holds when it is run. -/
theorem run_cases {sql : String} {x : Except Error (Option (Result τ))}
    (h : (e.run k.engine sql).outcome j = (x, j')) :
    Sees [.statement k.engine sql] j j' ∧
      (x = .ok (if isSetup sql then none else some ⟨e.rows, 0⟩) ∨
        ∃ error, x = .error error ∧ ¬e.Healthy) := by
  unfold run at h
  rw [Run.outcome_bind] at h
  rcases hc : (e.call (.statement k.engine sql)
    (if isSetup sql then .setReadOnly else .execute)).outcome j with ⟨error | _, j₁⟩
  · rw [hc] at h
    cases h
    exact ⟨call_sees hc, .inr ⟨error, rfl, not_healthy_of_call e hc⟩⟩
  · rw [hc] at h
    cases h
    exact ⟨call_sees hc, .inl rfl⟩

end Engine
end Oracle
end Pushdown
