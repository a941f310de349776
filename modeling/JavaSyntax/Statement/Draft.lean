import JavaSyntax.Expr.Operation

/-!
# Drafts of statements

What is put together before a conditional or a `try` is made, and the rules that the parts must
meet, in the order in which they are looked at.
-/

set_option autoImplicit false

namespace JavaSyntax

/-! ## Conditionals -/

/-- The parts of a conditional. -/
structure ConditionalDraft where
  condition : Option Expr := none
  body : List (Option Statement) := []
  /-- The branches that are tried after the first. -/
  elseIfs : List (Expr × List (Option Statement)) := []
  /-- What is done if no branch applies. -/
  otherwise : List (Option Statement) := []

namespace ConditionalDraft

/-- The kind of node in messages. -/
def node : String := "if statement"

/-- A branch after the first. -/
def buildElseIf (branch : Expr × List (Option Statement)) : Checked Branch := do
  checkCondition node branch.1
  return { condition := branch.1, body := ← withoutGaps node "else-if body" branch.2 }

/-- The conditional that the draft describes. -/
def build (draft : ConditionalDraft) : Checked Statement := do
  let condition ← given node "condition" draft.condition
  checkCondition node condition
  let others ← draft.elseIfs.mapM buildElseIf
  let body ← withoutGaps node "body" draft.body
  let otherwise ← withoutGaps node "else body" draft.otherwise
  return .conditional { condition := condition, body := body } others otherwise

end ConditionalDraft

/-- The draft that a conditional is built from. -/
def Statement.toConditionalDraft? : Statement → Option ConditionalDraft
  | conditional first others otherwise =>
    some
      { condition := some first.condition
        body := first.body.map some
        elseIfs := others.map fun b => (b.condition, b.body.map some)
        otherwise := otherwise.map some }
  | _ => none

/-! ## Exceptions -/

/-- The parts of a `try`. -/
structure TryDraft where
  resource : Option Assignment := none
  body : List (Option Statement) := []
  /-- The variable in which an exception is caught. -/
  caught : Option VariableExpr := none
  handler : List (Option Statement) := []
  /-- Whether this is only shown in a sample, where the exception may be left out. -/
  isSample : Bool := false

namespace TryDraft

/-- The kind of node in messages. -/
def node : String := "try-catch"

/-- A resource must be bound to a variable that the `try` declares. -/
def buildResource : Option Assignment → Checked Resource
  | none => .ok .absent
  | some ⟨.declaration d, source⟩ => .ok (.binding d source)
  | some ⟨.use v _, _⟩ => reject node "try resource" (.undeclaredResource v.name)

/-- The handler of a sample: statements only where there is a variable. -/
def buildSample (caught : Option VariableExpr) (body : List Statement) : Checked Handler :=
  match caught with
  | some v => .ok (.sample v body)
  | none =>
    if body.isEmpty then .ok .omitted else reject node "catch body" .catchBodyWithoutVariable

/-- The handler of code: a declared variable with the type of an exception. -/
def buildExecutable (caught : Option VariableExpr) (body : List Statement) : Checked Handler := do
  match ← given node "catch variable" caught with
  | .use v _ => reject node "catch variable" (.undeclaredException v.name)
  | .declaration d =>
    require d.type.isException node "catch variable" (.notExceptionType d.type.display)
    return .executable d body

/-- The `try` that the draft describes. -/
def build (draft : TryDraft) : Checked Statement := do
  let body ← withoutGaps node "try body" draft.body
  let handlerBody ← withoutGaps node "catch body" draft.handler
  let resource ← buildResource draft.resource
  let handler ←
    if draft.isSample then buildSample draft.caught handlerBody
    else buildExecutable draft.caught handlerBody
  return .tryCatch resource body handler

end TryDraft

/-- The assignment that opens a resource, if there is one. -/
def Resource.assignment? : Resource → Option Assignment
  | absent => none
  | binding d source => some { target := .declaration d, source := source }

/-- The variable in which an exception is caught, if it is. -/
def Handler.caught? : Handler → Option VariableExpr
  | omitted => none
  | sample v _ => some v
  | executable d _ => some (.declaration d)

/-- What is done with an exception. -/
def Handler.body : Handler → List Statement
  | omitted => []
  | sample _ body | executable _ body => body

/-- Whether only a sample may handle exceptions in this way. -/
def Handler.isSample : Handler → Bool
  | executable _ _ => false
  | _ => true

/-- The draft that a `try` is built from. -/
def Statement.toTryDraft? : Statement → Option TryDraft
  | tryCatch resource body handler =>
    some
      { resource := resource.assignment?
        body := body.map some
        caught := handler.caught?
        handler := handler.body.map some
        isSample := handler.isSample }
  | _ => none

end JavaSyntax
