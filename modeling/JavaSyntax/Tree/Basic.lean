import JavaSyntax.Comment
import JavaSyntax.Value
import JavaSyntax.Variable

/-!
# The syntax tree

Expressions, statements and methods, which contain each other: an expression may be an anonymous
class with methods, and a method is made of statements. The tree holds what has passed the rules
of its construction. Classes, which contain all of these and are contained in none, have a
module of their own.
-/

set_option autoImplicit false

namespace JavaSyntax

/-- How two values are compared. -/
inductive Comparison where
  | equal
  | unequal
  deriving DecidableEq, Repr

/-- The operator of a comparison. -/
def Comparison.symbol : Comparison → String
  | equal => "=="
  | unequal => "!="

/-- Which other constructor a constructor runs first. -/
inductive Delegate where
  /-- One of the same class. -/
  | this
  /-- One of the superclass. -/
  | super
  deriving DecidableEq, Repr

/-- The word for a delegate. -/
def Delegate.keyword : Delegate → String
  | this => "this"
  | super => "super"

/-- A method without what it does. -/
structure MethodHeader where
  comments : List Comment
  annotations : List Annotation
  modifiers : Modifiers
  isConstructor : Bool
  /-- The type of the result; for a constructor, the type that it constructs. -/
  returnType : JavaType
  identifier : Identifier
  parameters : List Declaration
  /-- The exceptions that the method declares. -/
  exceptions : List Reference
  deriving BEq

mutual
/-- What can be evaluated. -/
inductive Expr where
  | value (v : Value)
  | var (v : VariableExpr)
  /-- `condition ? whenTrue : whenFalse` -/
  | ternary (condition whenTrue whenFalse : Expr)
  /-- `target = source` -/
  | assignment (target : VariableExpr) (source : Expr)
  /-- `receiver.<typeArguments>name(arguments)` -/
  | call (name : Identifier) (receiver : Receiver) (typeArguments : List Reference)
      (arguments : List Expr) (returnType : JavaType)
  /-- `new type(arguments)`; a diamond leaves the type arguments to be inferred. -/
  | create (type : Reference) (arguments : List Expr) (isDiamond : Bool)
  /-- `((type) operand)` -/
  | cast (type : JavaType) (operand : Expr)
  /-- `operand instanceof type` -/
  | instanceOf (operand : Expr) (type : JavaType)
  | comparison (operator : Comparison) (left right : Expr)
  /-- An object of a class that is written in its place, with fields and methods. -/
  | anonymousClass (type : Reference) (statements : List Statement) (methods : List Method)
  /-- `this(arguments)` or `super(arguments)` -/
  | delegation (target : Delegate) (type : Reference) (arguments : List Expr)

/-- What stands before the dot of a variable or call. -/
inductive Receiver where
  /-- Nothing. -/
  | implicit
  /-- The object that an expression evaluates to. -/
  | object (e : Expr)
  /-- A class. -/
  | owner (r : Reference)

/-- A variable in the place of an expression. -/
inductive VariableExpr where
  /-- The declaration of a variable. -/
  | declaration (d : Declaration)
  /-- The use of a variable that is declared elsewhere. -/
  | use (v : Variable) (receiver : Receiver)

/-- What can be executed. -/
inductive Statement where
  | expression (e : Expr)
  /-- Statements between braces; an initializer of a class may be static. -/
  | block (isStatic : Bool) (body : List Statement)
  /-- Branches that are tried in order, and what is done if none applies. -/
  | conditional (first : Branch) (others : List Branch) (otherwise : List Statement)
  /-- A loop over the elements of a collection. -/
  | forEach (item : Declaration) (collection : Expr) (body : List Statement)
  | whileLoop (condition : Expr) (body : List Statement)
  | tryCatch (resource : Resource) (body : List Statement) (handler : Handler)
  | comment (c : Comment)
  /-- A blank line between siblings. -/
  | emptyLine

/-- A condition, and what is done if it holds. -/
structure Branch where
  condition : Expr
  body : List Statement

/-- What is opened before a `try` and closed after it. -/
inductive Resource where
  | absent
  | binding (declared : Declaration) (source : Expr)

/-- What is done with an exception. -/
inductive Handler where
  /-- Nothing is said about it, as only a sample may. -/
  | omitted
  /-- A sample catches it in any variable. -/
  | sample (caught : VariableExpr) (body : List Statement)
  /-- Code catches it in a variable that it declares. -/
  | executable (caught : Declaration) (body : List Statement)

/-- A method or constructor. An abstract method has neither statements nor a result. -/
structure Method where
  header : MethodHeader
  body : List Statement
  /-- The value that is returned at the end. -/
  result : Option Expr
end

/-! ## Forms of expressions -/

/-- The forms that an expression can have. -/
inductive Form where
  | value
  | var
  | ternary
  | assignment
  | call
  | create
  | cast
  | instanceOf
  | comparison
  | anonymousClass
  | delegation
  deriving DecidableEq, Repr

/-- The name of a form in messages. -/
def Form.name : Form → String
  | value => "Value"
  | var => "Variable"
  | ternary => "Ternary"
  | assignment => "Assignment"
  | call => "MethodInvocation"
  | create => "NewObject"
  | cast => "Cast"
  | instanceOf => "InstanceOf"
  | comparison => "RelationalOperation"
  | anonymousClass => "AnonymousClass"
  | delegation => "ReferenceConstructor"

/-- The form of an expression. -/
def Expr.form : Expr → Form
  | value _ => .value
  | var _ => .var
  | ternary .. => .ternary
  | assignment .. => .assignment
  | call .. => .call
  | create .. => .create
  | cast .. => .cast
  | instanceOf .. => .instanceOf
  | comparison .. => .comparison
  | anonymousClass .. => .anonymousClass
  | delegation .. => .delegation

/-! ## Variables in expressions -/

/-- The variable that is declared or used. -/
def VariableExpr.toVariable : VariableExpr → Variable
  | declaration d => d.toVariable
  | use v _ => v

/-- The name of the variable. -/
def VariableExpr.name (v : VariableExpr) : String := v.toVariable.name

/-- The type of the variable. -/
def VariableExpr.type (v : VariableExpr) : JavaType := v.toVariable.type

/-- The declaration, if this is one. -/
def VariableExpr.declaration? : VariableExpr → Option Declaration
  | declaration d => some d
  | use _ _ => none

/-- The declaration of a variable that an expression consists of. -/
def Expr.declaration? : Expr → Option Declaration
  | var v => v.declaration?
  | _ => none

/-! ## Methods -/

namespace Method

/-- The name of the method. -/
def name (m : Method) : String := m.header.identifier.text

/-- The name of a type as far as overloading can tell types apart: without type arguments. -/
def erasedName (type : JavaType) : String :=
  let name := type.reference?.elim type.kind.keyword (·.fullName)
  if type.isArray then name ++ "[]" else name

/-- The name with the erased types of the parameters, which no two methods of a class share. -/
def signature (m : Method) : String :=
  let types := m.header.parameters.map fun d => erasedName d.type
  m.name ++ "(" ++ ", ".intercalate types ++ ")"

end Method

end JavaSyntax
