import Mathlib.Data.List.TakeDrop
import Mathlib.Data.List.TakeWhile
import Pushdown.Text.Find

/-!
Pieces of text where they are found. A text that is cut at a character, or split at all of its
occurrences, is what it was put together from.
-/
namespace Pushdown.Text

variable {cs front back rest piece : List Char} {x : Char} {p : Char → Bool}

theorem occurs_iff : occurs piece cs = true ↔ piece <:+: cs := by
  induction cs with
  | nil => simp [occurs]
  | cons c rest ih => simp [occurs, List.infix_cons_iff, ih]

theorem afterPrefix?_append (front rest : List Char) :
    afterPrefix? front (front ++ rest) = some rest := by
  simp [afterPrefix?]

theorem afterPrefix?_eq_none : afterPrefix? front cs = none ↔ ¬front <+: cs := by
  simp [afterPrefix?]

theorem span_of_forall (hf : ∀ x ∈ front, p x = true) : front.span p = (front, []) := by
  rw [List.span_eq_takeWhile_dropWhile, List.takeWhile_eq_self_iff.mpr hf,
    List.dropWhile_eq_nil_iff.mpr hf]

theorem cutAt_append {c : Char} (hf : ∀ x ∈ front, p x = false) (hc : p c = true) :
    cutAt p (front ++ c :: back) = (front, some back) := by
  have hspan : (front ++ c :: back).span (!p ·) = (front, c :: back) := by
    rw [List.span_eq_takeWhile_dropWhile, List.takeWhile_append_of_pos (by simpa using hf),
      List.dropWhile_append_of_pos (by simpa using hf)]
    simp [hc]
  rw [cutAt, hspan]

theorem cutAt_of_forall (hf : ∀ x ∈ front, p x = false) : cutAt p front = (front, none) := by
  rw [cutAt, span_of_forall fun x hx => by simp [hf x hx]]

/-- A text is cut at the first occurrence of a character. -/
theorem cutAt_eq_some : cutAt (· == x) cs = (front, some back) ↔
    cs = front ++ x :: back ∧ x ∉ front := by
  have hne {cs : List Char} (hx : x ∉ cs) : ∀ c ∈ cs, (c == x) = false :=
    fun c hc => beq_false_of_ne fun heq => hx (heq ▸ hc)
  have happend {front back : List Char} (hx : x ∉ front) :
      cutAt (· == x) (front ++ x :: back) = (front, some back) :=
    cutAt_append (hne hx) (beq_self_eq_true x)
  constructor
  · intro h
    by_cases hx : x ∈ cs
    · obtain ⟨front', back', rfl, hfront'⟩ := List.eq_append_cons_of_mem hx
      rw [happend hfront'] at h
      cases h
      exact ⟨rfl, hfront'⟩
    · rw [cutAt_of_forall (hne hx)] at h
      cases h
  · rintro ⟨rfl, hx⟩
    exact happend hx

/-- No piece of a split has the character that was split at. -/
theorem not_mem_of_mem_splitOn (h : piece ∈ cs.splitOn x) : x ∉ piece := by
  induction cs generalizing piece with
  | nil => simp_all
  | cons c cs ih =>
    rw [List.splitOn_cons_eq_if_modifyHead] at h
    split at h
    · rcases List.mem_cons.mp h with rfl | h
      · simp
      · exact ih h
    · rename_i hc
      cases hsplit : cs.splitOn x with
      | nil => exact absurd hsplit (List.splitOn_ne_nil x cs)
      | cons first others =>
        rw [hsplit] at h ih
        rcases List.mem_cons.mp h with rfl | h
        · have hne : x ≠ c := fun heq => hc (by simp [heq])
          simp [hne, ih List.mem_cons_self]
        · exact ih (List.mem_cons_of_mem first h)

theorem splitOn_eq_three {a b c : List Char} : cs.splitOn x = [a, b, c] ↔
    cs = a ++ x :: (b ++ x :: c) ∧ x ∉ a ∧ x ∉ b ∧ x ∉ c := by
  constructor
  · intro h
    have hparts : ∀ part ∈ [a, b, c], x ∉ part := fun part hpart =>
      not_mem_of_mem_splitOn (h ▸ hpart)
    have hjoin : [x].intercalate (cs.splitOn x) = cs := List.intercalate_splitOn x
    refine ⟨?_, hparts a (by simp), hparts b (by simp), hparts c (by simp)⟩
    rw [← hjoin, h]
    simp [List.intercalate]
  · rintro ⟨rfl, ha, hb, hc⟩
    rw [List.splitOn_append_cons_self_of_not_mem ha, List.splitOn_append_cons_self_of_not_mem hb,
      List.splitOn_eq_singleton hc]

end Pushdown.Text
