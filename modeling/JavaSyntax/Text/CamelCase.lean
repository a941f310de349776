import JavaSyntax.Text.Segments
import JavaSyntax.Text.Uppercase

/-!
# Camel case

Both `display_name` and `displayName` become `DisplayName`: the underscores go, and the first
character of each part that they separate is put in upper case.
-/

set_option autoImplicit false

namespace JavaSyntax.Text

/-- A text with its first character in upper case. -/
def capitalized : List Char → List Char
  | [] => []
  | c :: rest => uppercase c ++ rest

/-- The upper camel case form of a name whose words are separated by underscores. -/
def upperCamelCase (name : String) : String :=
  String.ofList ((cut '_' name.toList).flatMap capitalized)

end JavaSyntax.Text
