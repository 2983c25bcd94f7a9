/-!
References to other names in the values of a settings file: a name in braces after a dollar sign,
with a default after `:-` if there is one. Main statement: a reference is shorter than the text it
is read from.
-/
namespace Pushdown.EnvFile

abbrev Environment := List (String × String)

structure Reference where
  name : List Char
  absent : List Char
  deriving DecidableEq, Repr

/-- The value of the name, or the default if it has none. -/
def Reference.value (env : Environment) (r : Reference) : List Char :=
  match env.lookup (String.ofList r.name) with
  | some value => value.toList
  | none => r.absent

/-- The reference that stands after a dollar sign, and the text after it. -/
def readReference : List Char → Option (Reference × List Char)
  | '{' :: cs =>
    let name := cs.takeWhile fun c => c != '}' && c != ':'
    match cs.dropWhile fun c => c != '}' && c != ':' with
    | '}' :: rest => some (⟨name, []⟩, rest)
    | ':' :: '-' :: tail =>
      match tail.dropWhile (· != '}') with
      | _ :: rest => some (⟨name, tail.takeWhile (· != '}')⟩, rest)
      | [] => none
    | _ => none
  | _ => none

theorem length_dropWhile_le {α : Type} (p : α → Bool) (l : List α) :
    (l.dropWhile p).length ≤ l.length :=
  (List.dropWhile_sublist p).length_le

theorem length_lt_of_readReference {cs rest : List Char} {r : Reference}
    (h : readReference cs = some (r, rest)) : rest.length < cs.length := by
  unfold readReference at h
  split at h
  · rename_i cs
    have hn := length_dropWhile_le (fun c => c != '}' && c != ':') cs
    dsimp only at h
    split at h
    · rename_i hd
      rw [hd] at hn
      obtain ⟨-, rfl⟩ := Prod.mk.inj (Option.some.inj h)
      simp only [List.length_cons] at hn ⊢
      omega
    · rename_i tail hd
      have ht := length_dropWhile_le (· != '}') tail
      rw [hd] at hn
      split at h
      · rename_i hd'
        rw [hd'] at ht
        obtain ⟨-, rfl⟩ := Prod.mk.inj (Option.some.inj h)
        simp only [List.length_cons] at hn ht ⊢
        omega
      · simp at h
    · simp at h
  · simp at h

/-- Replaces the references. A dollar sign that begins none stays, and what follows it is looked
at in its turn. -/
def expand (env : Environment) : List Char → List Char
  | [] => []
  | '$' :: rest =>
    match _h : readReference rest with
    | some (r, after) => r.value env ++ expand env after
    | none => '$' :: expand env rest
  | c :: rest => c :: expand env rest
  termination_by cs => cs.length
  decreasing_by
    · have := length_lt_of_readReference _h
      simp only [List.length_cons]
      omega
    all_goals simp

end Pushdown.EnvFile
