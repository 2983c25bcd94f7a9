import Mathlib.Data.List.TakeWhile
import Pushdown.Text.Blank

/-!
Trimmed text. Trimming leaves what stands between the characters of a class at either end, and
changes nothing that has none there.
-/
namespace Pushdown.Text

variable {p q : Char → Bool} {cs core front back : List Char}

theorem isBlank_of_isSpace {c : Char} (h : isSpace c = true) : isBlank c = true := by
  simp [isBlank, h]

/-- Text that neither begins nor ends with a character of a class. -/
structure Trimmed (p : Char → Bool) (cs : List Char) : Prop where
  head : ∀ c ∈ cs.head?, p c = false
  last : ∀ c ∈ cs.getLast?, p c = false

namespace Trimmed

theorem mono (h : Trimmed q cs) (hpq : ∀ c, p c = true → q c = true) : Trimmed p cs := by
  have hfalse : ∀ c, q c = false → p c = false := fun c hc =>
    Bool.eq_false_iff.mpr fun hp => Bool.eq_false_iff.mp hc (hpq c hp)
  exact ⟨fun c hc => hfalse c (h.head c hc), fun c hc => hfalse c (h.last c hc)⟩

theorem of_forall (h : ∀ c ∈ cs, p c = false) : Trimmed p cs where
  head c hc := h c (List.mem_of_mem_head? hc)
  last c hc := h c (List.mem_of_mem_getLast? hc)

end Trimmed

theorem dropWhile_append_of_head (hf : ∀ c ∈ front, p c = true)
    (hb : ∀ c ∈ back.head?, p c = false) : (front ++ back).dropWhile p = back := by
  rw [List.dropWhile_append_of_pos hf]
  cases back with
  | nil => rfl
  | cons c back => simp [hb c rfl]

theorem trimBy_append (h : Trimmed p core) (hf : ∀ c ∈ front, p c = true)
    (hb : ∀ c ∈ back, p c = true) : trimBy p (front ++ core ++ back) = core := by
  have hback : ∀ c ∈ back.reverse, p c = true := fun c hc => hb c (List.mem_reverse.mp hc)
  have hlast : ∀ c ∈ core.reverse.head?, p c = false := fun c hc => h.last c (by simpa using hc)
  by_cases hcore : core = []
  · subst hcore
    have hall : ∀ c ∈ front ++ back, p c = true := fun c hc =>
      (List.mem_append.mp hc).elim (hf c) (hb c)
    rw [List.append_nil, trimBy, List.dropWhile_eq_nil_iff.mpr hall]
    rfl
  · have hhead : ∀ c ∈ (core ++ back).head?, p c = false := by
      cases core with
      | nil => exact absurd rfl hcore
      | cons d core => exact h.head
    rw [trimBy, List.append_assoc, dropWhile_append_of_head hf hhead, List.reverse_append,
      dropWhile_append_of_head hback hlast, List.reverse_reverse]

theorem Trimmed.trimBy_eq (h : Trimmed p cs) : trimBy p cs = cs := by
  have hnil : ∀ c ∈ ([] : List Char), p c = true := by simp
  simpa using trimBy_append h hnil hnil

theorem head_dropWhile {c : Char} (hc : (cs.dropWhile p).head? = some c) : p c = false := by
  have := List.head?_dropWhile_not p cs
  rwa [hc] at this

theorem trimmed_trimBy (p : Char → Bool) (cs : List Char) : Trimmed p (trimBy p cs) := by
  obtain ⟨rest, hrest⟩ : trimBy p cs <+: cs.dropWhile p := by
    rw [← List.reverse_suffix, trimBy, List.reverse_reverse]
    exact List.dropWhile_suffix p
  refine ⟨fun c hc => ?_, fun c hc => ?_⟩
  · have hhead : (cs.dropWhile p).head? = some c := by
      rw [← hrest, List.head?_append, Option.mem_def.mp hc]
      rfl
    exact head_dropWhile hhead
  · rw [trimBy, List.getLast?_reverse] at hc
    exact head_dropWhile hc

theorem trimBy_eq_iff : trimBy p cs = core ↔ Trimmed p core ∧ ∃ front back,
    (∀ c ∈ front, p c = true) ∧ (∀ c ∈ back, p c = true) ∧ cs = front ++ core ++ back := by
  constructor
  · rintro rfl
    refine ⟨trimmed_trimBy p cs, cs.takeWhile p, ((cs.dropWhile p).reverse.takeWhile p).reverse,
      ?_, ?_, ?_⟩
    · exact fun c hc => List.mem_takeWhile_imp hc
    · exact fun c hc => List.mem_takeWhile_imp (List.mem_reverse.mp hc)
    · rw [trimBy, List.append_assoc, ← List.reverse_append, List.takeWhile_append_dropWhile,
        List.reverse_reverse, List.takeWhile_append_dropWhile]
  · rintro ⟨h, front, back, hf, hb, rfl⟩
    exact trimBy_append h hf hb

end Pushdown.Text
