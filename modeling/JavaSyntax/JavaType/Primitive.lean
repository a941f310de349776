/-!
# Primitive types

The eight types whose values are not objects, the class that boxes each of them, and the
conversions between them that lose no magnitude.
-/

set_option autoImplicit false

namespace JavaSyntax

/-- A type whose values are not objects. -/
inductive Primitive where
  | byte
  | short
  | int
  | long
  | float
  | double
  | char
  | boolean
  deriving DecidableEq, Repr

namespace Primitive

/-- All primitive types. -/
def all : List Primitive := [byte, short, int, long, float, double, char, boolean]

/-- The word that names the type. -/
def keyword : Primitive → String
  | byte => "byte"
  | short => "short"
  | int => "int"
  | long => "long"
  | float => "float"
  | double => "double"
  | char => "char"
  | boolean => "boolean"

/-- The name of the class in `java.lang` that boxes the type. -/
def boxedName : Primitive → String
  | byte => "Byte"
  | short => "Short"
  | int => "Integer"
  | long => "Long"
  | float => "Float"
  | double => "Double"
  | char => "Character"
  | boolean => "Boolean"

/-- The type that a class of `java.lang` boxes. -/
def ofBoxedName? (name : String) : Option Primitive := all.find? (·.boxedName == name)

/-- Whether the values of the type are numbers; characters are. -/
def isNumeric : Primitive → Bool
  | boolean => false
  | _ => true

/-- Whether every value of the first type converts to the second without being asked to. -/
def widensTo : Primitive → Primitive → Bool
  | byte, short | byte, int | byte, long | byte, float | byte, double => true
  | short, int | short, long | short, float | short, double => true
  | char, int | char, long | char, float | char, double => true
  | int, long | int, float | int, double => true
  | long, float | long, double => true
  | float, double => true
  | p, q => p == q

theorem widensTo_refl (p : Primitive) : p.widensTo p = true := by cases p <;> rfl

end Primitive

end JavaSyntax
