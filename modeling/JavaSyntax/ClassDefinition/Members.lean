import JavaSyntax.Statement.Simple

/-!
# Members of a class

The rules for what stands in the body of a class, with a name or without: fields, initializers
and comments are its only statements, no field and no signature occurs twice, and only an
abstract class has abstract methods.
-/

set_option autoImplicit false

namespace JavaSyntax

/-- The field that a statement declares, with or without a first value. -/
def Expr.field? : Expr → Option Declaration
  | var v | assignment v _ => v.declaration?
  | _ => none

/-- How messages call a statement that is not a member of a class. -/
def Statement.kindName : Statement → String
  | expression e => e.form.name
  | block .. => "block"
  | conditional .. => "if"
  | forEach .. => "for"
  | whileLoop .. => "while"
  | tryCatch .. => "try-catch"
  | comment _ => "comment"
  | emptyLine => "empty line"

namespace Members

/-- The field that a member declares, if it declares one. -/
def fieldOf (node : String) (s : Statement) : Checked (Option Declaration) :=
  match s with
  | .expression e =>
    match e.field? with
    | some d => .ok (some d)
    | none => reject node "statements" (.notMember s.kindName)
  | .block .. | .comment _ | .emptyLine => .ok none
  | _ => reject node "statements" (.notMember s.kindName)

/-- Every statement is a member, and none declares a field that is declared before it. -/
def checkFields (node : String) (declared : List String) : List Statement → Checked Unit
  | [] => .ok ()
  | s :: rest => do
    match ← fieldOf node s with
    | none => checkFields node declared rest
    | some d =>
      if d.name ∈ declared then .error ⟨node, .redeclared d.name⟩
      else checkFields node (d.name :: declared) rest

/-- No method has the signature of one before it, and none is abstract unless the class is. -/
def checkMethods (node : String) (isAbstract : Bool) (declared : List String) :
    List Method → Checked Unit
  | [] => .ok ()
  | m :: rest => do
    if m.signature ∈ declared then .error ⟨node, .redeclared m.signature⟩
    else
      require (isAbstract || !m.header.modifiers.isAbstract) node "methods"
        (.abstractInConcrete m.name)
      checkMethods node isAbstract (m.signature :: declared) rest

/-- The rules for the body of a class. -/
def check (node : String) (isAbstract : Bool) (statements : List Statement)
    (methods : List Method) : Checked Unit := do
  checkFields node [] statements
  checkMethods node isAbstract [] methods

end Members

end JavaSyntax
