import JavaSyntax.Tree.Equality

/-!
# Classes

A class stands in a package or, if it is nested, in another class. Its members are kept in the
order fields and initializers, methods, nested classes.
-/

set_option autoImplicit false

namespace JavaSyntax

/-- Where a class stands. -/
inductive Placement where
  | topLevel (package : List Identifier)
  | nested
  deriving DecidableEq

/-- A class without its members. -/
structure ClassHeader where
  comments : List Comment
  annotations : List Annotation
  placement : Placement
  modifiers : Modifiers
  identifier : Identifier
  superclass : Option Reference
  interfaces : List Reference
  deriving BEq

/-- A class. -/
structure ClassDefinition where
  header : ClassHeader
  statements : List Statement
  methods : List Method
  nested : List ClassDefinition

/-- The text of the package, empty for a nested class. -/
def Placement.packageName : Placement → String
  | topLevel package => dotted package
  | nested => ""

/-- Whether the class stands in another class. -/
def Placement.isNested : Placement → Bool
  | topLevel _ => false
  | nested => true

namespace ClassDefinition

/-- The name of the class. -/
def name (c : ClassDefinition) : String := c.header.identifier.text

/-- The text of the package, empty for a nested class. -/
def packageName (c : ClassDefinition) : String := c.header.placement.packageName

/-- Whether the class stands in another class. -/
def isNested (c : ClassDefinition) : Bool := c.header.placement.isNested

mutual
/-- Whether two classes are built alike. -/
def same : ClassDefinition → ClassDefinition → Bool
  | ⟨h, ss, ms, ns⟩, ⟨h', ss', ms', ns'⟩ =>
    h == h' && ss == ss' && ms == ms' && sameNested ns ns'

/-- Whether two lists of classes agree at every position. -/
def sameNested : List ClassDefinition → List ClassDefinition → Bool
  | [], [] => true
  | c :: cs, c' :: cs' => c.same c' && sameNested cs cs'
  | _, _ => false
end

instance : BEq ClassDefinition := ⟨same⟩

end ClassDefinition

end JavaSyntax
