import Pushdown.Template
import Pushdown.Text.Find
import Pushdown.TypeCode

/-!
Logical types as type names of a SQL dialect.
-/
namespace Pushdown

/-- The name of each kind. That of text may have a slot for the length; unbounded text may have a
name of its own. -/
structure TypeMapper where
  typeName : TypeKind → String
  unboundedText : Option String

namespace TypeMapper

def generic : TypeMapper where
  typeName
    | .double => "double precision"
    | k => k.name
  unboundedText := none

/-- Gives one kind another name. -/
def rename (m : TypeMapper) (kind : TypeKind) (name : String) : TypeMapper :=
  { m with typeName := fun k => if k = kind then name else m.typeName k }

def lengthSlot : String := "{length}"

/-- The name of text without a length: its own if it has one, else the name up to its
parentheses. -/
def unboundedName (m : TypeMapper) : String :=
  let bare := String.ofList ((m.typeName .varchar).toList.takeWhile (· != '('))
  match m.unboundedText with
  | some name => if name = "" then bare else name
  | none => bare

/-- The type name of a logical type. A length fills the slots of the name, or follows a name
without slots in parentheses. -/
def toPhysical (m : TypeMapper) : LogicalType → Except Template.Fault String
  | .varchar none => .ok m.unboundedName
  | .varchar (some length) =>
    let name := m.typeName .varchar
    if Text.occurs lengthSlot.toList name.toList then
      Template.fill name [("length", .number length.val)]
    else .ok (name ++ "(" ++ toString length.val ++ ")")
  | t => .ok (m.typeName t.kind)

end TypeMapper
end Pushdown
