import JavaSyntax.Tree.Typing

/-!
# Drafts of expressions

What is put together before a variable expression, a call, an object or a call of another
constructor is made, and the rules that the parts must meet, in the order in which they are
looked at.
-/

set_option autoImplicit false

namespace JavaSyntax

/-! ## Variables -/

/-- The parts of a variable expression. -/
structure VariableDraft where
  target : Option Variable := none
  isDeclaration : Bool := false
  access : Access := .package
  isStatic : Bool := false
  isFinal : Bool := false
  annotations : List Annotation := []
  /-- The expression before the dot. -/
  object : Option Expr := none
  /-- The class before the dot. -/
  owner : Option JavaType := none

namespace VariableDraft

/-- The kind of node in messages. -/
def node : String := "variable expression"

/-- Whether something stands before the dot. -/
def isQualified (draft : VariableDraft) : Bool := draft.object.isSome || draft.owner.isSome

/-- A declaration is not qualified. -/
def buildDeclaration (draft : VariableDraft) (target : Variable) : Checked VariableExpr := do
  require (!draft.isQualified) node "receiver" (.qualifiedDeclaration target.name)
  return .declaration
    { toVariable := target
      annotations := draft.annotations
      access := draft.access
      isStatic := draft.isStatic
      isFinal := draft.isFinal }

/-- A use carries nothing that belongs to a declaration. -/
def buildUse (draft : VariableDraft) (target : Variable) : Checked VariableExpr := do
  require (draft.access == .package) node "scope" (.scopedUse target.name)
  require (!draft.isStatic && !draft.isFinal) node "modifiers" (.modifiedUse target.name)
  require draft.annotations.isEmpty node "annotations" (.annotatedUse target.name)
  return .use target (← Receiver.ofParts node draft.object draft.owner)

/-- The variable expression that the draft describes. -/
def build (draft : VariableDraft) : Checked VariableExpr := do
  let target ← given node "variable" draft.target
  require (!(draft.object.isSome && draft.owner.isSome)) node "receiver" .twoQualifiers
  if draft.isDeclaration then draft.buildDeclaration target else draft.buildUse target

end VariableDraft

namespace VariableExpr

/-- A use without a receiver. -/
def ofVariable (v : Variable) : VariableExpr := .use v .implicit

/-- A declaration without modifiers and annotations. -/
def declare (v : Variable) : VariableExpr := .declaration { toVariable := v }

/-- The draft that a variable expression is built from. -/
def toDraft : VariableExpr → VariableDraft
  | declaration d =>
    { target := some d.toVariable
      isDeclaration := true
      access := d.access
      isStatic := d.isStatic
      isFinal := d.isFinal
      annotations := d.annotations }
  | use v receiver =>
    { target := some v, object := receiver.object?, owner := receiver.ownerType? }

end VariableExpr

/-! ## Calls -/

/-- The parts of a call. -/
structure CallDraft where
  name : Option String := none
  /-- The expression before the dot. -/
  object : Option Expr := none
  /-- The class before the dot. -/
  owner : Option JavaType := none
  arguments : List (Option Expr) := []
  typeArguments : List Reference := []
  /-- Nothing, unless it is given. -/
  returnType : Option JavaType := none

namespace CallDraft

/-- The kind of node in messages. -/
def node : String := "method invocation"

/-- Whether something stands before the dot. -/
def isQualified (draft : CallDraft) : Bool := draft.object.isSome || draft.owner.isSome

/-- Refuses the first argument that has no value. -/
def checkArguments (arguments : List Expr) : Checked Unit :=
  match arguments.find? (·.type.isVoid) with
  | some argument => reject node "arguments" (.voidArgument argument.form.name)
  | none => .ok ()

/-- The call that the draft describes. -/
def build (draft : CallDraft) : Checked Expr := do
  let text ← given node "method name" draft.name
  let name ← Identifier.ofString text
  require (!(draft.object.isSome && draft.owner.isSome)) node "receiver" .twoReceivers
  let receiver ← Receiver.ofParts node draft.object draft.owner
  require (draft.typeArguments.isEmpty || draft.isQualified) node "generics"
    (.genericsWithoutReceiver text)
  let arguments ← withoutGaps node "arguments" draft.arguments
  checkArguments arguments
  return .call name receiver draft.typeArguments arguments (draft.returnType.getD .void)

end CallDraft

/-- The draft that a call is built from. -/
def Expr.toCallDraft? : Expr → Option CallDraft
  | call name receiver typeArguments arguments returnType =>
    some
      { name := some name.text
        object := receiver.object?
        owner := receiver.ownerType?
        arguments := arguments.map some
        typeArguments := typeArguments
        returnType := some returnType }
  | _ => none

/-! ## Objects -/

/-- The parts of the creation of an object. -/
structure CreateDraft where
  type : Option JavaType := none
  arguments : List (Option Expr) := []
  /-- Whether the type arguments are left to be inferred. -/
  isDiamond : Bool := false

namespace CreateDraft

/-- The kind of node in messages. -/
def node : String := "new object expression"

/-- The creation that the draft describes. -/
def build (draft : CreateDraft) : Checked Expr := do
  let type ← given node "type" draft.type
  let type ← checkClass node "type" .notInstantiable type
  let arguments ← withoutGaps node "arguments" draft.arguments
  return .create type arguments draft.isDiamond

end CreateDraft

/-! ## Calls of other constructors -/

/-- The call of another constructor for a class of the given type. -/
def Expr.mkDelegation (target : Delegate) (type : JavaType) (arguments : List (Option Expr)) :
    Checked Expr := do
  let node := "reference constructor"
  let type ← checkClass node "static reference type" .notClassType type
  let arguments ← withoutGaps node "arguments" arguments
  return .delegation target type arguments

end JavaSyntax
