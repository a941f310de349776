import JavaSyntax.Tree.Typing

/-!
# Operations

The expressions that combine others by an operator, each with the rule that its operands must
meet.
-/

set_option autoImplicit false

namespace JavaSyntax

/-! ## Assignments -/

/-- An assignment: a variable, declared in this place or not, and the value that it receives. -/
structure Assignment where
  target : VariableExpr
  source : Expr

/-- The assignment of a value that the variable accepts. -/
def Assignment.make (target : VariableExpr) (source : Expr) : Checked Assignment :=
  if target.type.accepts source.type then .ok { target := target, source := source }
  else mismatch "assignment expression" "=" target.type source.type

/-- An assignment as an expression. -/
def Assignment.toExpr (a : Assignment) : Expr := .assignment a.target a.source

namespace Expr

/-! ## Choice -/

/-- The choice between two values of which one could stand in the place of the other. -/
def mkTernary (condition whenTrue whenFalse : Expr) : Checked Expr := do
  let node := "ternary expression"
  checkCondition node condition
  if whenTrue.type.accepts whenFalse.type || whenFalse.type.accepts whenTrue.type then
    return .ternary condition whenTrue whenFalse
  else
    mismatch node "?:" whenTrue.type whenFalse.type

/-! ## Types at run time -/

/-- A value taken as one of another type. Truth values and numbers do not convert. -/
def mkCast (type : JavaType) (operand : Expr) : Checked Expr :=
  let node := "cast expression"
  let source := operand.type
  if type.isVoid || source.isVoid then reject node "type" .voidCast
  else if source.isPrimitive && type.isPrimitive && source.isBoolean != type.isBoolean then
    mismatch node "cast" type source
  else .ok (.cast type operand)

/-- The test whether an object is one of a type. -/
def mkInstanceOf (operand : Expr) (type : JavaType) : Checked Expr := do
  let node := "instanceof expression"
  require operand.type.isReference node "expression" (.notObject operand.type.display)
  require (type.isReference && !type.isNull) node "check type" (.notReferenceType type.display)
  return .instanceOf operand type

/-! ## Comparison -/

/-- Whether this creates an object of the class of everything. -/
def isBareObject : Expr → Bool
  | create type _ _ => type.isObject
  | _ => false

/-- Refuses operands that cannot be compared. -/
def checkComparable (operator : Comparison) (left right : Expr) : Checked Unit :=
  if left.type.isComparableWith right.type (left.isBareObject || right.isBareObject) then .ok ()
  else mismatch "relational operation" operator.symbol left.type right.type

/-- The comparison of two values. -/
def mkComparison (operator : Comparison) (left right : Expr) : Checked Expr := do
  checkComparable operator left right
  return .comparison operator left right

end Expr

end JavaSyntax
