import JavaSyntax.Tree.Typing

/-!
# Simple statements and loops

The statements that are made from their parts at once, each with the rule that the parts must
meet.
-/

set_option autoImplicit false

namespace JavaSyntax

/-- Whether an expression has an effect of its own, so that it may be a statement. -/
def Expr.hasEffect : Expr → Bool
  | call .. | assignment .. | create .. | delegation .. => true
  | var v => v.declaration?.isSome
  | _ => false

/-- Whether a loop can run over values of a type. Boxed values and strings have no elements; of
other classes nothing is known that would rule it out. -/
def JavaType.isIterable (t : JavaType) : Bool :=
  t.isReference && !t.isNull && !t.isBoxed && !t.isString

namespace Statement

/-- An expression that is evaluated for its effect. -/
def mkExpression (e : Expr) : Checked Statement := do
  require e.hasEffect "expression statement" "expression" (.notStatement e.form.name)
  return .expression e

/-- Statements between braces. -/
def mkBlock (isStatic : Bool) (body : List (Option Statement)) : Checked Statement :=
  return .block isStatic (← withoutGaps "block" "body" body)

/-- A loop over a collection, in a variable that the loop declares. -/
def mkForEach (item : VariableExpr) (collection : Expr) (body : List (Option Statement)) :
    Checked Statement := do
  let node := "for statement"
  match item with
  | .use v _ => reject node "local variable" (.undeclaredLoopVariable v.name)
  | .declaration d =>
    let type := collection.type
    require type.isIterable node "collection" (.notIterable type.display)
    return .forEach d collection (← withoutGaps node "body" body)

/-- A loop that runs while a condition holds. -/
def mkWhileLoop (condition : Expr) (body : List (Option Statement)) : Checked Statement := do
  let node := "while statement"
  checkCondition node condition
  return .whileLoop condition (← withoutGaps node "body" body)

end Statement

end JavaSyntax
