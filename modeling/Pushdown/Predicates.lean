import Pushdown.Domain
import Pushdown.Table
import Pushdown.Text.NameSet

/-!
Conjunctions of constraints, one domain per column name, in the order in which they were given.
-/
namespace Pushdown

structure Constraint where
  column : Column
  domain : Domain
  deriving DecidableEq

def repeatedNames (names : List String) : List String :=
  Text.sortedNames (names.filter fun name => 1 < names.count name)

/-- The conjunction of its entries; one marked `isNone` holds of no row. -/
structure Predicates where
  entries : List Constraint
  isNone : Bool
  distinct : (entries.map (·.column.name)).Nodup
  deriving DecidableEq

/-- Columns that are constrained more than once. -/
structure RepeatedColumns where
  names : List String
  deriving DecidableEq, Repr

def RepeatedColumns.message (f : RepeatedColumns) : String :=
  "Columns constrained more than once: " ++ Text.displayList f.names

namespace Predicates

def make (entries : List Constraint) (isNone : Bool) : Except RepeatedColumns Predicates :=
  let names := entries.map (·.column.name)
  if h : names.Nodup then .ok ⟨entries, isNone, h⟩ else .error ⟨repeatedNames names⟩

def all : Predicates := ⟨[], false, List.nodup_nil⟩

def none : Predicates := ⟨[], true, List.nodup_nil⟩

/-- The conjunction of the constraints that do constrain their column. -/
def ofPairs (pairs : List (Column × Domain)) : Except RepeatedColumns Predicates :=
  make ((pairs.filter (!·.2.isAll)).map fun (column, domain) => ⟨column, domain⟩) false

def get? (p : Predicates) (column : Column) : Option Domain :=
  (p.entries.find? (·.column == column)).map (·.domain)

end Predicates
end Pushdown
