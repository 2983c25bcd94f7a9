/-!
Values under names, in the order in which the names were first set.
-/
namespace Pushdown

abbrev Named (α : Type) := List (String × α)

/-- Sets a name, in its old place if it has one. -/
def Named.put {α : Type} (xs : Named α) (name : String) (value : α) : Named α :=
  if (xs.lookup name).isSome then xs.map fun (n, v) => if n = name then (n, value) else (n, v)
  else xs ++ [(name, value)]

end Pushdown
