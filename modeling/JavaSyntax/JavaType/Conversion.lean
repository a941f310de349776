import JavaSyntax.JavaType.Basic

/-!
# Conversion and comparison

Which values a slot accepts, and which values can be compared with each other. Both look at
types alone.
-/

set_option autoImplicit false

namespace JavaSyntax

/-! ## What a slot accepts -/

/-- Whether the classes have one name and their type arguments do not contradict each other: a
class without type arguments goes with any. -/
def Reference.matchesErased (target value : Reference) : Bool :=
  target.fullName == value.fullName &&
    (target.arguments.isEmpty || value.arguments.isEmpty || target.arguments == value.arguments)

/-- Whether a slot for objects of one class accepts objects of another. -/
def Reference.accepts (target value : Reference) : Bool :=
  target == value || value.isNull || target.isObject || target.matchesErased value ||
    value.isSubtypeOf target.fullName

/-- Whether a slot of one type accepts values of another. -/
def JavaType.accepts : JavaType → JavaType → Bool
  | .void, _ | _, .void => false
  | .single (.primitive p), .single (.primitive q) => q.widensTo p
  | .single (.primitive p), .single (.reference v) => v.unboxed?.any (·.widensTo p)
  | .single (.primitive _), .array _ => false
  | .single (.reference t), .single (.primitive q) => t.isObject || t.unboxed? == some q
  | .single (.reference t), .single (.reference v) => t.accepts v
  | .single (.reference t), .array _ => t.isObject
  | .array _, .single (.primitive _) => false
  | .array _, .single (.reference v) => v.isNull
  | .array (.reference t), .array (.reference v) => t.accepts v
  | .array t, .array v => t == v

/-! ## What can be compared -/

/-- Whether values of the two types can be compared for identity. The first rule that speaks of
the two types decides. The last rule lets a bare object, made to be told apart from others, be
compared with every object. -/
def JavaType.isComparableWith (left right : JavaType) (hasBareObject : Bool) : Bool :=
  if left.isVoid || right.isVoid then false
  else if left.isNull then right.isReference
  else if right.isNull then left.isReference
  else if left.isNumeric && right.isNumeric then true
  else if left.isBoolean && right.isBoolean then true
  else if left.isBoolean != right.isBoolean && !left.isObject && !right.isObject then false
  else if left.isArray && right.isArray then left.elementType? == right.elementType?
  else if left.isArray != right.isArray then false
  else if left.isObject then right.isReference
  else if right.isObject then left.isReference
  else if left.isReference && right.isReference then left == right || hasBareObject
  else false

end JavaSyntax
