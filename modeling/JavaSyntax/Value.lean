import JavaSyntax.Literal.Basic

/-!
# Values

The expressions without parts: literals, `null`, and the objects that a keyword or a constant of
an enumeration names. The type of such an object is given with it; `ofThis`, `ofSuper` and
`ofConstant` see to it that it is a class.
-/

set_option autoImplicit false

namespace JavaSyntax

/-- An expression without parts. -/
inductive Value where
  | literal (l : Literal)
  | string (text : String)
  | null
  /-- The object whose method runs. -/
  | this (type : JavaType)
  /-- The same object as one of its superclass. -/
  | super (type : JavaType)
  /-- A constant of an enumeration. -/
  | constant (type : JavaType) (name : Identifier)
  deriving BEq

namespace Value

/-- Refuses an object that a keyword or a constant would name if its type is not a class. -/
def requireClass (node : String) (type : JavaType) : Checked Unit :=
  require (type.isReference && !type.isArray && !type.isNull) node "type"
    (.notClassType type.display)

/-- The keyword `this` in a class of the given type. -/
def ofThis (type : JavaType) : Checked Value := do
  requireClass "this" type
  return .this type

/-- The keyword `super` for a superclass of the given type. -/
def ofSuper (type : JavaType) : Checked Value := do
  requireClass "super" type
  return .super type

/-- A constant of an enumeration with the given type. -/
def ofConstant (type : JavaType) (name : String) : Checked Value := do
  requireClass "enum constant" type
  return .constant type (← Identifier.ofString name)

/-- The type of a value. -/
def type : Value → JavaType
  | literal l => .ofPrimitive l.type
  | string _ => .string
  | null => .null
  | this t | super t | constant t _ => t

end Value

end JavaSyntax
