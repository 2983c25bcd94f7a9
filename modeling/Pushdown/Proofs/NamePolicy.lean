import Pushdown.NamePolicy
import Pushdown.Proofs.Case
import Pushdown.Proofs.NameSet

/-!
What a policy hides, and what it makes of a name that the database is asked for. Both depend on the
upper form of the name only, and a name that was folded for the database is not changed again. A
policy can be extended any number of times: each time it hides more names, whatever the order, and
no name is lost.
-/
namespace Pushdown.NamePolicy

variable {p : NamePolicy} {upper : Bool} {schema table : String}

/-- A policy cannot tell apart names with the same upper form. -/
theorem isSystem_congr {m n : String} (h : Text.upper m = Text.upper n) :
    p.isSystem m = p.isSystem n := by
  rw [isSystem, isSystem, h]

@[simp] theorem isSystem_upper (n : String) : p.isSystem (Text.upper n) = p.isSystem n :=
  isSystem_congr (Text.upper_upper n)

theorem isSystem_ofNames {names : List String} {n : String} :
    (ofNames names).isSystem n = true ↔ ∃ d ∈ names, Text.upper d = Text.upper n := by
  simp [ofNames, isSystem]

/-- The names that a policy was built from and those that were added do the same. -/
theorem extend_ofNames (names extra : List String) :
    (ofNames names).extend extra = ofNames (names ++ extra) := by
  refine congrArg mk (Text.sortedNames_congr fun name => ?_)
  simp [ofNames]

/-- An extended policy hides the names that it was built from and those that were added. -/
theorem isSystem_extend {names extra : List String} {n : String} :
    ((ofNames names).extend extra).isSystem n = true ↔
      ∃ d ∈ names ++ extra, Text.upper d = Text.upper n := by
  rw [extend_ofNames, isSystem_ofNames]

theorem lookupSchema_of_visible (h : p.isSystem schema = false) :
    p.lookupSchema upper schema = if upper then Text.upper schema else schema := by
  simp [lookupSchema, h]

theorem lookupTable_of_visible (h : p.isSystem schema = false) :
    p.lookupTable upper schema table = if upper then Text.upper table else table := by
  simp [lookupTable, h]

@[simp] theorem isSystem_lookupSchema : p.isSystem (p.lookupSchema upper schema) =
    p.isSystem schema := by
  unfold lookupSchema
  split
  · exact isSystem_upper schema
  · rfl

@[simp] theorem lookupSchema_lookupSchema : p.lookupSchema upper (p.lookupSchema upper schema) =
    p.lookupSchema upper schema := by
  rw [lookupSchema, isSystem_lookupSchema]
  unfold lookupSchema
  split
  · exact Text.upper_upper schema
  · rfl

@[simp] theorem lookupTable_lookupTable :
    p.lookupTable upper (p.lookupSchema upper schema) (p.lookupTable upper schema table) =
      p.lookupTable upper schema table := by
  rw [lookupTable, isSystem_lookupSchema]
  unfold lookupTable
  split
  · exact Text.upper_upper table
  · rfl

theorem lookupTable_ne_empty (h : table ≠ "") : p.lookupTable upper schema table ≠ "" := by
  unfold lookupTable
  split
  · exact Text.upper_ne_empty h
  · exact h

/-! Extensions. -/

/-- Neither the order of names nor how often they are given makes another policy. -/
theorem ofNames_congr {xs ys : List String} (h : ∀ name, name ∈ xs ↔ name ∈ ys) :
    ofNames xs = ofNames ys := by
  refine congrArg mk (Text.sortedNames_congr fun name => ?_)
  simp only [List.mem_map, h]

theorem extend_of_subset {names extra : List String} (h : extra ⊆ names) :
    (ofNames names).extend extra = ofNames names := by
  rw [extend_ofNames]
  refine ofNames_congr fun name => ?_
  rw [List.mem_append, or_iff_left_of_imp (@h name)]

/-- However often a policy was extended, it is the one that is built from all the names. -/
theorem foldl_extend (names : List String) (extensions : List (List String)) :
    extensions.foldl extend (ofNames names) = ofNames (names ++ extensions.flatten) := by
  induction extensions generalizing names with
  | nil => rw [List.foldl_nil, List.flatten_nil, List.append_nil]
  | cons extra rest ih =>
    rw [List.foldl_cons, extend_ofNames, ih, List.flatten_cons, List.append_assoc]

/-- To what a policy hides, built from names and extended any number of times, an extension adds the
spellings of its own names and nothing else. Two extensions in turn make the policy that both make
at once, in either order, and one that was made before changes nothing. -/
theorem extend_adds {names : List String} {extensions : List (List String)}
    (hp : p = extensions.foldl extend (ofNames names)) :
    (∀ xs n, (p.extend xs).isSystem n = true ↔
        p.isSystem n = true ∨ ∃ x ∈ xs, Text.upper n = Text.upper x) ∧
      (∀ xs ys, (p.extend xs).extend ys = p.extend (ys ++ xs)) ∧
      (∀ xs, (p.extend xs).extend xs = p.extend xs) ∧
      ∀ xs ∈ extensions, p.extend xs = p := by
  rw [hp, foldl_extend]
  refine ⟨fun xs n => ?_, fun xs ys => ?_, fun xs => ?_, fun xs hxs => ?_⟩
  · rw [isSystem_extend, isSystem_ofNames]
    simp only [List.mem_append, or_and_right, exists_or, eq_comm (a := Text.upper n)]
  · rw [extend_ofNames, extend_ofNames, extend_ofNames]
    refine ofNames_congr fun name => ?_
    simp only [List.mem_append, or_assoc, or_comm (a := name ∈ xs)]
  · rw [extend_ofNames]
    exact extend_of_subset (List.subset_append_right _ xs)
  · refine extend_of_subset fun name hname => List.mem_append_right names ?_
    exact List.mem_flatten_of_mem hxs hname

/-- A sharp s and a double s are spellings of each other, and two names are given twice. -/
theorem extend_adds_german :
    let p := [["Straße"], ["maß", "Ärzte"]].foldl extend (ofNames ["sys"])
    (p.extend ["Fuß"]).isSystem "FUSS" = true ∧ (p.extend ["Fuß"]).isSystem "strasse" = true ∧
      (p.extend ["Fuß"]).extend ["hr"] = p.extend ["hr", "Fuß"] ∧
      p.extend ["maß", "Ärzte"] = p := by
  intro p
  obtain ⟨hmarks, htogether, -, hagain⟩ := extend_adds (rfl : p = _)
  refine ⟨(hmarks _ _).mpr (.inr ⟨"Fuß", by decide, by decide +kernel⟩),
    (hmarks _ _).mpr (.inl (by decide +kernel)), htogether ["Fuß"] ["hr"],
    hagain ["maß", "Ärzte"] (by decide)⟩

end Pushdown.NamePolicy
