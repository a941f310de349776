/-!
# Comments

Comments are attached to declarations or stand alone among statements.
-/

set_option autoImplicit false

namespace JavaSyntax

/-- A comment, by the way it is delimited. -/
inductive Comment where
  /-- Up to the end of the line, with a marker on each line of the text. -/
  | line (text : String)
  /-- Between delimiters. -/
  | block (text : String)
  /-- Between the delimiters of documentation, one entry per paragraph. -/
  | javadoc (entries : List String)
  deriving DecidableEq, Repr

end JavaSyntax
