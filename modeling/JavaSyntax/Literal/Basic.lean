import JavaSyntax.JavaType.Basic
import JavaSyntax.Literal.Integral
import JavaSyntax.Literal.Floating
import JavaSyntax.Literal.Character

/-!
# Literals

A primitive literal is kept as the exact text that is written for it, once that text is known to
denote a value of its type.
-/

set_option autoImplicit false

namespace JavaSyntax

/-- Whether a text denotes a value of a primitive type. A `char` is a quoted character or a
number; a `long`, `float` or `double` may end in the letter of its type. -/
def Primitive.isLiteral : Primitive → String → Bool
  | boolean, text => text == "true" || text == "false"
  | char, text => Literal.isCharacter text.toList || Literal.fitsUnsigned 16 text.toList
  | byte, text => Literal.fitsSigned 8 text.toList
  | short, text => Literal.fitsSigned 16 text.toList
  | int, text => Literal.fitsSigned 32 text.toList
  | long, text => Literal.fitsSigned 64 (Literal.dropSuffix ['L', 'l'] text.toList)
  | float, text => Literal.fitsBinary 24 128 (Literal.dropSuffix ['F', 'f'] text.toList)
  | double, text => Literal.fitsBinary 53 1024 (Literal.dropSuffix ['D', 'd'] text.toList)

/-- A value of a primitive type, as it is written. -/
structure Literal where
  type : Primitive
  text : String
  valid : type.isLiteral text = true
  deriving DecidableEq

namespace Literal

/-- The kind of node in messages. -/
def node : String := "primitive value"

/-- The literal of a type with a given text. -/
def ofString (type : JavaType) (text : String) : Checked Literal :=
  match type with
  | .single (.primitive p) =>
    if valid : p.isLiteral text = true then .ok ⟨p, text, valid⟩
    else reject node "value" (.notLiteral text p.keyword)
  | _ => reject node "type" (.notPrimitiveType type.display)

end Literal

end JavaSyntax
