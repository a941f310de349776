import JavaSyntax.JavaType.Basic

/-!
# Annotations

An annotation names a class and may carry one text.
-/

set_option autoImplicit false

namespace JavaSyntax

/-- An annotation of a declaration. -/
structure Annotation where
  type : Reference
  description : Option String := none
  deriving BEq

namespace Annotation

/-- The annotation with a given type, which must be a single class. -/
def ofType (type : JavaType) (description : Option String) : Checked Annotation :=
  match type.singleReference? with
  | some r => .ok { type := r, description := description }
  | none => reject "annotation" "type" (.notAnnotationType type.display)

/-- The mark of a method that replaces an inherited one. -/
def override : Annotation :=
  { type := Reference.wellKnown ClassName.override }

/-- The mark of a declaration that should no longer be used. -/
def deprecated : Annotation :=
  { type := Reference.wellKnown ClassName.deprecated }

/-- The mark of a declaration that a tool has made. -/
def generated (description : String) : Annotation :=
  { type := Reference.wellKnown ClassName.generated, description := some description }

end Annotation

end JavaSyntax
