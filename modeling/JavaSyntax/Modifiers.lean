/-!
# Modifiers

Who may see a declaration, and the words that stand before it, always in the order access,
`abstract`, `static`, `final`.
-/

set_option autoImplicit false

namespace JavaSyntax

/-- Who may see a declaration. -/
inductive Access where
  /-- Everyone: `public`. -/
  | everyone
  /-- The package and the subclasses: `protected`. -/
  | subclasses
  /-- The class itself: `private`. -/
  | owner
  /-- The package, which no word stands for. -/
  | package
  deriving DecidableEq, Repr, Inhabited

/-- The word for an access, if it has one. -/
def Access.keyword? : Access → Option String
  | everyone => some "public"
  | subclasses => some "protected"
  | owner => some "private"
  | package => none

/-- What stands before the name of a method or class. -/
structure Modifiers where
  access : Access := .package
  isAbstract : Bool := false
  isStatic : Bool := false
  isFinal : Bool := false
  deriving DecidableEq, Repr

/-- The words of the modifiers, in the order in which they are written. -/
def Modifiers.words (m : Modifiers) : List String :=
  m.access.keyword?.toList ++ (if m.isAbstract then ["abstract"] else []) ++
    (if m.isStatic then ["static"] else []) ++ (if m.isFinal then ["final"] else [])

end JavaSyntax
