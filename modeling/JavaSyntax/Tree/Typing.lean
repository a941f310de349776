import JavaSyntax.JavaType.Conversion
import JavaSyntax.Tree.Basic

/-!
# Typing

The type that an expression evaluates to, and the checks that a construction makes of the types
of its parts.
-/

set_option autoImplicit false

namespace JavaSyntax

/-- The first of two types, or the second where the first is the type of `null`. -/
def JavaType.unlessNull (first second : JavaType) : JavaType :=
  if first.isNull then second else first

/-- The type that an expression evaluates to. A conditional expression takes the type of its
first branch, unless that is `null`. A call of another constructor has no value. -/
def Expr.type : Expr → JavaType
  | value v => v.type
  | var v => v.type
  | ternary _ whenTrue whenFalse => whenTrue.type.unlessNull whenFalse.type
  | assignment target _ => target.type
  | call _ _ _ _ returnType => returnType
  | create type _ _ => .ofReference type
  | cast type _ => type
  | instanceOf _ _ => .boolean
  | comparison _ _ _ => .boolean
  | anonymousClass type _ _ => .ofReference type
  | delegation _ _ _ => .void

/-- Refuses operands whose types do not go together. -/
def mismatch {α : Type} (node operator : String) (left right : JavaType) : Checked α :=
  .error ⟨node, .incompatible operator left.display right.display⟩

/-- Refuses a condition that is not a truth value. -/
def checkCondition (node : String) (condition : Expr) : Checked Unit :=
  require condition.type.isBoolean node "condition" (.notCondition condition.type.display)

/-- The class of a type that must be a single class. -/
def checkClass (node field : String) (problem : String → Problem) (type : JavaType) :
    Checked Reference :=
  match type.class? with
  | some r => .ok r
  | none => reject node field (problem type.display)

/-- The receiver that an expression or a class makes. The expression must evaluate to an object,
since nothing else has members; if it is there, the class is not looked at. -/
def Receiver.ofParts (node : String) (object : Option Expr) (owner : Option JavaType) :
    Checked Receiver :=
  match object, owner with
  | some e, _ =>
    if e.type.isReference then .ok (.object e)
    else reject node "receiver" (.notReceiver e.type.display)
  | none, some type =>
    return .owner (← checkClass node "static reference type" .notClassType type)
  | none, none => .ok .implicit

/-- The expression before the dot, if there is one. -/
def Receiver.object? : Receiver → Option Expr
  | object e => some e
  | _ => none

/-- The type of the class before the dot, if there is one. -/
def Receiver.ownerType? : Receiver → Option JavaType
  | owner r => some (.ofReference r)
  | _ => none

theorem checkCondition_eq_ok_iff {node : String} {condition : Expr} :
    checkCondition node condition = .ok () ↔ condition.type.isBoolean = true :=
  require_eq_ok_iff

theorem checkClass_eq_ok_iff {node field : String} {problem : String → Problem} {type : JavaType}
    {r : Reference} : checkClass node field problem type = .ok r ↔ type.class? = some r := by
  unfold checkClass
  cases type.class? <;> simp [reject]

end JavaSyntax
