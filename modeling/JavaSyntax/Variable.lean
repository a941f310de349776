import JavaSyntax.Annotation
import JavaSyntax.Modifiers

/-!
# Variables

A variable is a name with a type, shared by its declaration and its uses. A declaration adds
modifiers and annotations.
-/

set_option autoImplicit false

namespace JavaSyntax

/-- A name for a value of a type. -/
structure Variable where
  identifier : Identifier
  type : JavaType
  holdsValue : type.isVoid = false

instance : BEq Variable := ⟨fun a b => a.identifier == b.identifier && a.type == b.type⟩

namespace Variable

/-- The name of the variable. -/
def name (v : Variable) : String := v.identifier.text

/-- The variable with a given name and type. -/
def ofName (name : String) (type : JavaType) : Checked Variable := do
  if holdsValue : type.isVoid = false then
    let identifier ← Identifier.ofString name
    return ⟨identifier, type, holdsValue⟩
  else
    reject "variable" "type" (.voidVariable name)

end Variable

/-- The place where a variable comes into being. -/
structure Declaration extends Variable where
  annotations : List Annotation := []
  access : Access := .package
  isStatic : Bool := false
  isFinal : Bool := false
  deriving BEq

namespace Declaration

/-- What stands before the type. A declaration of a variable is never abstract. -/
def modifiers (d : Declaration) : Modifiers :=
  { access := d.access, isStatic := d.isStatic, isFinal := d.isFinal }

end Declaration

end JavaSyntax
