import JavaSyntax.JavaType.Primitive
import JavaSyntax.Reference.Basic

/-!
# Well-known classes

The classes that the library itself speaks of: those behind the types of literals, the
annotations with a meaning of their own, and the collections and byte strings of sample values.
-/

set_option autoImplicit false

namespace JavaSyntax.ClassName

/-- A class of the package `java.lang`. -/
def javaLang (name : Identifier) : ClassName :=
  { package := [{ text := "java" }, { text := "lang" }], enclosing := [], name := name }

/-- A class of the package `java.util`. -/
def javaUtil (name : Identifier) : ClassName :=
  { package := [{ text := "java" }, { text := "util" }], enclosing := [], name := name }

/-- A class of a package of `com.google`. -/
def google (area name : Identifier) : ClassName :=
  { package := [{ text := "com" }, { text := "google" }, area], enclosing := [], name := name }

/-- The class of everything. -/
def object : ClassName := javaLang { text := "Object" }

/-- The class of character strings. -/
def string : ClassName := javaLang { text := "String" }

/-- The class that stands for the type of `null`. -/
def nullType : ClassName :=
  { package := [{ text := "javax" }, { text := "lang" }, { text := "model" }, { text := "type" }]
    enclosing := []
    name := { text := "NullType" } }

/-- The class that boxes a primitive type. -/
def boxed : Primitive → ClassName
  | .byte => javaLang { text := "Byte" }
  | .short => javaLang { text := "Short" }
  | .int => javaLang { text := "Integer" }
  | .long => javaLang { text := "Long" }
  | .float => javaLang { text := "Float" }
  | .double => javaLang { text := "Double" }
  | .char => javaLang { text := "Character" }
  | .boolean => javaLang { text := "Boolean" }

/-- The annotation of a method that replaces an inherited one. -/
def override : ClassName := javaLang { text := "Override" }

/-- The annotation of a declaration that should no longer be used. -/
def deprecated : ClassName := javaLang { text := "Deprecated" }

/-- The annotation of a declaration that a tool has made. -/
def generated : ClassName :=
  { package := [{ text := "javax" }, { text := "annotation" }]
    enclosing := []
    name := { text := "Generated" } }

/-- The list that repeated fields are filled with. -/
def arrayList : ClassName := javaUtil { text := "ArrayList" }

/-- The map that map fields are filled with. -/
def hashMap : ClassName := javaUtil { text := "HashMap" }

/-- The class of byte strings. -/
def byteString : ClassName := google { text := "protobuf" } { text := "ByteString" }

end JavaSyntax.ClassName
