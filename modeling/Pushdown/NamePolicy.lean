import Pushdown.Text.Case
import Pushdown.Text.NameSet

/-!
Which schemas belong to the database itself, and how names are folded between the engine and the
database. System schemas are compared in upper case.
-/
namespace Pushdown

/-- The system schemas in upper case. -/
structure NamePolicy where
  system : List String
  deriving DecidableEq, Repr

namespace NamePolicy

def ofNames (names : List String) : NamePolicy := ⟨Text.sortedNames (names.map Text.upper)⟩

/-- The policy that also hides the given schemas. -/
def extend (p : NamePolicy) (names : List String) : NamePolicy :=
  ofNames (p.system ++ names.map Text.upper)

def isSystem (p : NamePolicy) (name : String) : Bool := p.system.contains (Text.upper name)

/-- A schema name as the database is asked for it: folded to upper case where names are stored so,
unless it is a system schema. -/
def lookupSchema (p : NamePolicy) (storesUpper : Bool) (schema : String) : String :=
  if storesUpper && !p.isSystem schema then Text.upper schema else schema

/-- A table name as the database is asked for it; its schema decides. -/
def lookupTable (p : NamePolicy) (storesUpper : Bool) (schema table : String) : String :=
  if storesUpper && !p.isSystem schema then Text.upper table else table

/-- A name as the engine sees it. -/
def display (name : String) : String := Text.lower name

end NamePolicy
end Pushdown
