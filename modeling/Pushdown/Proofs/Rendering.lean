import Pushdown.Proofs.Literal
import Pushdown.Proofs.Overflow

/-!
What keeps a value from being written. A value that does not fit its column is blamed in the name of
the column; only a whole number that is too large for a double is not.
-/
namespace Pushdown

variable {column : String} {value : Option Value} {dialect : Dialect} {type : LogicalType}
  {fault : LiteralFault}

/-- The fault says which value does not fit which column, and how. -/
def LiteralFault.Blames (column : String) (value : Option Value) (fault : LiteralFault) : Prop :=
  ∃ m, fault = Literal.breach column value m

/-- A whole number that is too large for a column of doubles. -/
def Value.TooLarge (type : LogicalType) (value : Option Value) : Prop :=
  type = .double ∧ ∃ n, value = some (.int n) ∧ Double.overflowInteger ≤ n.natAbs

namespace Literal

theorem blames_breach (m : Mismatch) : (breach column value m).Blames column value := ⟨m, rfl⟩

theorem blames_of_orBreach {α : Type} {x : Except Mismatch α}
    (h : orBreach column value x = .error fault) : fault.Blames column value := by
  cases x with
  | ok a => cases h
  | error m =>
    cases h
    exact blames_breach m

theorem blames_of_orBreach_bind {α β : Type} {x : Except Mismatch α} {f : α → β}
    (h : (do return f (← orBreach column value x)) = .error fault) :
    fault.Blames column value := by
  rcases bind_eq_error.mp h with h | ⟨a, -, h⟩
  · exact blames_of_orBreach h
  · cases h

theorem orTooLarge_eq_error {x : Option FiniteDouble} :
    orTooLarge x = .error fault ↔ x = none ∧ fault = .integerTooLarge := by
  cases x with
  | none => simp [orTooLarge, eq_comm]
  | some x => simp [orTooLarge]

theorem doubleOf_eq_error (h : doubleOf column value = .error fault) :
    fault.Blames column value ∨ Value.TooLarge .double value ∧ fault = .integerTooLarge := by
  unfold doubleOf at h
  split at h
  · rename_i n
    obtain ⟨hnone, rfl⟩ := orTooLarge_eq_error.mp h
    exact .inr ⟨⟨rfl, n, rfl, Double.ofInt?_eq_none_iff.mp hnone⟩, rfl⟩
  · cases h
  · cases h
    exact .inl (blames_breach _)
  · split at h
    · cases h
    · cases h
      exact .inl (blames_breach _)
    · cases h
      exact .inl (blames_breach _)
  · cases h
    exact .inl (blames_breach _)

/-- Whatever keeps a value from being written is blamed on it, or is a number that is too large. -/
theorem render_eq_error (hd : dialect.Known)
    (h : render column value dialect type = .error fault) :
    fault.Blames column value ∨ Value.TooLarge type value ∧ fault = .integerTooLarge := by
  unfold render at h
  cases type with
  | varchar length? => exact .inl (blames_of_orBreach_bind h)
  | bigint => exact .inl (blames_of_orBreach_bind h)
  | boolean => exact .inl (blames_of_orBreach_bind h)
  | double =>
    rcases bind_eq_error.mp h with h | ⟨x, -, h⟩
    · exact doubleOf_eq_error h
    · cases h
  | date =>
    rcases bind_eq_error.mp h with h | ⟨day, -, h⟩
    · exact .inl (blames_of_orBreach h)
    · split at h
      · rename_i date _
        obtain ⟨text, -, hfill, -⟩ := hd.reads_date (.inl rfl) date.text
        cases hfill.symm.trans h
      · cases h
        exact .inl (blames_breach _)
  | timestamp =>
    rcases bind_eq_error.mp h with h | ⟨millis, -, h⟩
    · exact .inl (blames_of_orBreach h)
    · split at h
      · rename_i moment _
        obtain ⟨text, -, hfill, -⟩ := hd.reads_timestamp (.inl rfl) moment.text
        cases hfill.symm.trans h
      · cases h
        exact .inl (blames_breach _)
  | varbinary =>
    cases h
    exact .inl (blames_breach _)
  | time =>
    cases h
    exact .inl (blames_breach _)

theorem render_of_tooLarge (h : Value.TooLarge type value) :
    render column value dialect type = .error .integerTooLarge := by
  obtain ⟨rfl, n, rfl, hn⟩ := h
  rw [render, doubleOf, Double.ofInt?_eq_none_iff.mpr hn]
  rfl

/-- A value is written, or refused in the name of its column, unless it is a number that is too large
for a column of doubles; that one is refused in no name. -/
theorem written_or_breach (hd : dialect.Known) (column : String) (value : Option Value)
    (type : LogicalType) :
    (¬Value.TooLarge type value →
      (∃ text, render column value dialect type = .ok text) ∨
        ∃ b, render column value dialect type = .error (.breach b) ∧ b.column = column) ∧
      (Value.TooLarge type value →
        render column value dialect type = .error .integerTooLarge) := by
  refine ⟨fun hsmall => ?_, render_of_tooLarge⟩
  cases h : render column value dialect type with
  | ok text => exact .inl ⟨text, rfl⟩
  | error fault =>
    rcases render_eq_error hd h with ⟨m, rfl⟩ | ⟨hlarge, -⟩
    · exact .inr ⟨_, rfl, rfl⟩
    · exact absurd hlarge hsmall

theorem written_or_breach_infinite :
    let large : Option Value := some (.int Double.overflowInteger)
    ¬Value.TooLarge .double (some (.text "1e400")) ∧ Value.TooLarge .double large ∧
      (∃ b, render "C" (some (.text "1e400")) .generic .double = .error (.breach b) ∧
        b.column = "C") ∧
      render "C" large .generic .double = .error .integerTooLarge := by
  intro large
  have htext : ¬Value.TooLarge .double (some (.text "1e400")) := by
    rintro ⟨-, n, hn, -⟩
    cases hn
  have hlarge : Value.TooLarge .double large := ⟨rfl, _, rfl, (Int.natAbs_natCast _).ge⟩
  refine ⟨htext, hlarge, ?_, ?_⟩
  · rcases (written_or_breach (.inl rfl) "C" _ _).1 htext with ⟨text, h⟩ | hbreach
    · have hrefused : render "C" (some (.text "1e400")) .generic .double =
          .error (breach "C" (some (.text "1e400")) .notFinite) := by decide +kernel
      cases hrefused.symm.trans h
    · exact hbreach
  · exact (written_or_breach (.inl rfl) "C" large .double).2 hlarge

/-- The least number that is too large has 309 digits. -/
theorem unwritten_without_breach :
    let large : Option Value := some (.int Double.overflowInteger)
    Double.overflowInteger < 10 ^ maxNumeralDigits ∧
      ¬((∃ text, render "C" large .generic .double = .ok text) ∨
        ∃ b, render "C" large .generic .double = .error (.breach b) ∧ b.column = "C") := by
  intro large
  have hlarge : render "C" large .generic .double = .error .integerTooLarge :=
    render_of_tooLarge ⟨rfl, _, rfl, (Int.natAbs_natCast _).ge⟩
  refine ⟨by decide +kernel, ?_⟩
  rw [hlarge]
  rintro (⟨text, h⟩ | ⟨b, h, -⟩)
  · cases h
  · cases h

end Literal
end Pushdown
