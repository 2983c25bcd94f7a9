import Pushdown.Range

/-!
The values a column may take: any, none, or those in given ranges and lists. Nulls are admitted
apart from values.
-/
namespace Pushdown

inductive ValueSetKind
  | all | none | some
  deriving DecidableEq, Repr

namespace ValueSetKind

def name : ValueSetKind → String
  | .all => "all"
  | .none => "none"
  | .some => "some"

def ofName? (s : String) : Option ValueSetKind := [all, none, some].find? (·.name == s)

end ValueSetKind

/-- A set of values. A listed value may be null, which equals nothing. -/
inductive ValueSet
  | all
  | none
  | some (ranges : List Range) (values : List (Option Value))
    (inhabited : ranges ≠ [] ∨ values ≠ [])
  deriving DecidableEq

namespace ValueSet

def kind : ValueSet → ValueSetKind
  | .all => .all
  | .none => .none
  | .some .. => .some

def ranges : ValueSet → List Range
  | .some ranges .. => ranges
  | _ => []

def values : ValueSet → List (Option Value)
  | .some _ values _ => values
  | _ => []

end ValueSet

structure Domain where
  set : ValueSet
  nullAllowed : Bool
  deriving DecidableEq

inductive DomainFault
  | nothingListed
  | cannotCarry (kind : ValueSetKind)
  deriving DecidableEq, Repr

def DomainFault.message : DomainFault → String
  | .nothingListed => "A SOME domain needs at least one range or value"
  | .cannotCarry kind =>
    "A " ++ kind.name.map Char.toUpper ++ " domain cannot carry ranges or values"

namespace Domain

def make (kind : ValueSetKind) (ranges : List Range) (values : List (Option Value))
    (nullAllowed : Bool) : Except DomainFault Domain :=
  match kind with
  | .some =>
    if h : ranges ≠ [] ∨ values ≠ [] then .ok ⟨.some ranges values h, nullAllowed⟩
    else .error .nothingListed
  | .all =>
    if ranges.isEmpty && values.isEmpty then .ok ⟨.all, nullAllowed⟩ else .error (.cannotCarry .all)
  | .none =>
    if ranges.isEmpty && values.isEmpty then .ok ⟨.none, nullAllowed⟩
    else .error (.cannotCarry .none)

/-- Every value and null. -/
def all : Domain := ⟨.all, true⟩

def notNull : Domain := ⟨.all, false⟩

def none : Domain := ⟨.none, false⟩

def onlyNull : Domain := ⟨.none, true⟩

/-- Whether the domain constrains nothing. -/
def isAll (d : Domain) : Bool := d.set == .all && d.nullAllowed

end Domain
end Pushdown
