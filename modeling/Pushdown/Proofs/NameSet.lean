import Mathlib.Data.List.Sort
import Mathlib.Data.String.Basic
import Pushdown.Text.NameSet

/-!
Sets of names are in order, each name once, so that the same names make the same set.
-/
namespace Pushdown.Text

theorem insertName_pairwise {name : String} {names : List String} (h : names.Pairwise (· < ·)) :
    (insertName name names).Pairwise (· < ·) := by
  induction names with
  | nil => exact List.pairwise_singleton _ _
  | cons other rest ih =>
    obtain ⟨hother, hrest⟩ := List.pairwise_cons.mp h
    unfold insertName
    split
    · rename_i hlt
      refine List.pairwise_cons.mpr ⟨fun x hx => ?_, h⟩
      rcases List.mem_cons.mp hx with rfl | hx
      · exact hlt
      · exact hlt.trans (hother x hx)
    · split
      · exact h
      · rename_i hlt hne
        refine List.pairwise_cons.mpr ⟨fun x hx => ?_, ih hrest⟩
        rcases mem_insertName.mp hx with rfl | hx
        · exact lt_of_le_of_ne (not_lt.mp hlt) (Ne.symm hne)
        · exact hother x hx

/-- A set of names is in code point order, each name once. -/
theorem sortedNames_pairwise (names : List String) : (sortedNames names).Pairwise (· < ·) := by
  induction names with
  | nil => exact List.Pairwise.nil
  | cons name rest ih => exact insertName_pairwise ih

/-- Neither the order of names nor how often they are given shows in their set. -/
theorem sortedNames_congr {xs ys : List String} (h : ∀ name, name ∈ xs ↔ name ∈ ys) :
    sortedNames xs = sortedNames ys := by
  refine (sortedNames_pairwise xs).eq_of_mem_iff (sortedNames_pairwise ys) fun name => ?_
  rw [mem_sortedNames, mem_sortedNames, h]

end Pushdown.Text
