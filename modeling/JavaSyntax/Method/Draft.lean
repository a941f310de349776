import JavaSyntax.Tree.Typing

/-!
# Drafts of methods

What is put together before a method or constructor is made, and the rules that the parts must
meet, in the order in which they are looked at.
-/

set_option autoImplicit false

namespace JavaSyntax

/-- The parts of a method or constructor. -/
structure MethodDraft where
  comments : List Comment := []
  annotations : List Annotation := []
  modifiers : Modifiers := {}
  isConstructor : Bool := false
  /-- Whether the mark of a method that replaces an inherited one is wanted. -/
  isOverride : Bool := false
  /-- Nothing, unless it is given. -/
  returnType : Option JavaType := none
  /-- The name of a constructor may be left to its type. -/
  name : Option String := none
  parameters : List (Option VariableExpr) := []
  exceptions : List JavaType := []
  body : List (Option Statement) := []
  result : Option Expr := none

namespace MethodDraft

/-- The kind of node in messages. -/
def node : String := "method definition"

/-- The draft of a constructor for a type. -/
def constructor (type : JavaType) : MethodDraft :=
  { isConstructor := true, returnType := some type }

/-- The name of the class behind a type or its elements. -/
def className? (type : JavaType) : Option String := type.reference?.map (·.name)

/-- The name that is given, or the one that a constructor takes from its type. -/
def chooseName (draft : MethodDraft) (returnType : JavaType) : Checked String :=
  match draft.name with
  | some name => .ok name
  | none =>
    if draft.isConstructor then
      match className? returnType with
      | some name => .ok name
      | none => reject node "return type" .constructorWithoutClass
    else reject node "name" .unset

/-- A constructor belongs to objects, has no result, and is named after its class. -/
def checkConstructor (draft : MethodDraft) (name : String) (returnType : JavaType) :
    Checked Unit := do
  require (!draft.modifiers.isAbstract && !draft.modifiers.isStatic) node "modifiers"
    (.modifiedConstructor name)
  require draft.result.isNone node "return expression" (.constructorResult name)
  require (className? returnType == some name) node "name"
    (.misnamedConstructor name returnType.display)

/-- An abstract method can be replaced and does nothing itself. -/
def checkAbstract (draft : MethodDraft) (name : String) : Checked Unit := do
  require (!draft.modifiers.isStatic && !draft.modifiers.isFinal) node "modifiers"
    (.modifiedAbstract name)
  require (draft.body.isEmpty && draft.result.isNone) node "body" (.abstractBody name)

/-- A method with a result returns a value that fits it. -/
def checkResult (draft : MethodDraft) (name : String) (returnType : JavaType) : Checked Unit :=
  match draft.result with
  | none => reject node "return expression" (.missingResult name returnType.display)
  | some result =>
    if returnType.accepts result.type then .ok ()
    else mismatch node "return" returnType result.type

/-- The rules for modifiers, body and result, which depend on the kind of method. -/
def checkShape (draft : MethodDraft) (name : String) (returnType : JavaType) : Checked Unit :=
  if draft.isConstructor then draft.checkConstructor name returnType
  else if draft.modifiers.isAbstract then draft.checkAbstract name
  else if returnType.isVoid then
    require draft.result.isNone node "return expression" (.voidResult name)
  else draft.checkResult name returnType

/-- The parameters are declarations of variables that are not declared before them. -/
def declareParameters (declared : List String) : List VariableExpr → Checked (List Declaration)
  | [] => .ok []
  | .use v _ :: _ => reject node "arguments" (.undeclaredParameter v.name)
  | .declaration d :: rest => do
    if d.name ∈ declared then
      .error ⟨node, .redeclared d.name⟩
    else
      let later ← declareParameters (d.name :: declared) rest
      return d :: later

/-- The class of an exception that is declared. -/
def exceptionClass (type : JavaType) : Checked Reference :=
  match type.singleReference?.filter (·.isException) with
  | some r => .ok r
  | none => reject node "throws" (.notExceptionType type.display)

/-- The annotations, with the wanted mark in front unless it is among them. -/
def markedAnnotations (draft : MethodDraft) : List Annotation :=
  if draft.isOverride && !draft.annotations.contains Annotation.override then
    Annotation.override :: draft.annotations
  else draft.annotations

/-- The method that the draft describes. -/
def build (draft : MethodDraft) : Checked Method := do
  let returnType := draft.returnType.getD .void
  let name ← draft.chooseName returnType
  let identifier ← Identifier.ofString name
  draft.checkShape name returnType
  let parameters ← withoutGaps node "arguments" draft.parameters
  let parameters ← declareParameters [] parameters
  let exceptions ← draft.exceptions.mapM exceptionClass
  let body ← withoutGaps node "body" draft.body
  return {
    header :=
      { comments := draft.comments
        annotations := draft.markedAnnotations
        modifiers := draft.modifiers
        isConstructor := draft.isConstructor
        returnType := returnType
        identifier := identifier
        parameters := parameters
        exceptions := exceptions }
    body := body
    result := draft.result }

end MethodDraft

/-- The draft that a method is built from. -/
def Method.toDraft (m : Method) : MethodDraft :=
  { comments := m.header.comments
    annotations := m.header.annotations
    modifiers := m.header.modifiers
    isConstructor := m.header.isConstructor
    returnType := some m.header.returnType
    name := some m.name
    parameters := m.header.parameters.map fun d => some (.declaration d)
    exceptions := m.header.exceptions.map .ofReference
    body := m.body.map some
    result := m.result }

end JavaSyntax
