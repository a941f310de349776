import JavaSyntax.ClassDefinition.Members

/-!
# Anonymous classes

An object of a class that is written where the object is needed. Such a class has no name, so it
has no constructors either.
-/

set_option autoImplicit false

namespace JavaSyntax

/-- The parts of an anonymous class. -/
structure AnonymousClassDraft where
  type : Option JavaType := none
  statements : List (Option Statement) := []
  methods : List (Option Method) := []

namespace AnonymousClassDraft

/-- The kind of node in messages. -/
def node : String := "anonymous class"

/-- Refuses the first constructor. -/
def checkConstructors (methods : List Method) : Checked Unit :=
  match methods.find? (·.header.isConstructor) with
  | some m => reject node "methods" (.constructorOfAnonymous m.name)
  | none => .ok ()

/-- The anonymous class that the draft describes. -/
def build (draft : AnonymousClassDraft) : Checked Expr := do
  let type ← given node "type" draft.type
  let type ← checkClass node "type" .notSubclassable type
  let statements ← withoutGaps node "statements" draft.statements
  let methods ← withoutGaps node "methods" draft.methods
  checkConstructors methods
  Members.check node false statements methods
  return .anonymousClass type statements methods

end AnonymousClassDraft

end JavaSyntax
