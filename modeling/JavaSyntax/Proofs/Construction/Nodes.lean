import JavaSyntax.ClassDefinition.Draft
import JavaSyntax.Expr.AnonymousClass
import JavaSyntax.Expr.Draft
import JavaSyntax.Method.Draft
import JavaSyntax.Statement.Draft

/-!
# Nodes

Variables, assignments, expressions, statements, methods and classes as one type, so that what lies
anywhere in a tree can be spoken of at once. `Node.children` lists what a node holds directly, and
`Node.Within` leads from there to everything in it. The drafts of all nodes that have one are one
type as well, with the parts that a draft is put together from.
-/

set_option autoImplicit false

namespace JavaSyntax

/-- What can be constructed of other such things. -/
inductive Node where
  | var (v : VariableExpr)
  | assignment (a : Assignment)
  | expression (e : Expr)
  | statement (s : Statement)
  | method (m : Method)
  | definition (c : ClassDefinition)

/-! ## Children -/

/-- What stands before the dot, if it is an expression. -/
def Receiver.children (receiver : Receiver) : List Node := receiver.object?.toList.map .expression

/-- What a variable expression holds directly. -/
def VariableExpr.children : VariableExpr → List Node
  | declaration _ => []
  | use _ receiver => receiver.children

/-- What an assignment holds directly. -/
def Assignment.children (a : Assignment) : List Node := [.var a.target, .expression a.source]

/-- What an expression holds directly. -/
def Expr.children : Expr → List Node
  | value _ => []
  | var v => [.var v]
  | ternary condition whenTrue whenFalse =>
    [.expression condition, .expression whenTrue, .expression whenFalse]
  | assignment target source => [.assignment { target := target, source := source }]
  | call _ receiver _ arguments _ => receiver.children ++ arguments.map .expression
  | create _ arguments _ | delegation _ _ arguments => arguments.map .expression
  | cast _ operand | instanceOf operand _ => [.expression operand]
  | comparison _ left right => [.expression left, .expression right]
  | anonymousClass _ statements methods => statements.map .statement ++ methods.map .method

/-- What a branch holds directly. -/
def Branch.children (b : Branch) : List Node := .expression b.condition :: b.body.map .statement

/-- What a statement holds directly. -/
def Statement.children : Statement → List Node
  | expression e => [.expression e]
  | block _ body => body.map .statement
  | conditional first others otherwise =>
    first.children ++ others.flatMap (·.children) ++ otherwise.map .statement
  | forEach item collection body =>
    .var (.declaration item) :: .expression collection :: body.map .statement
  | whileLoop condition body => .expression condition :: body.map .statement
  | tryCatch resource body handler =>
    resource.assignment?.toList.map .assignment ++ body.map .statement ++
      handler.caught?.toList.map .var ++ handler.body.map .statement
  | comment _ | emptyLine => []

/-- What a method holds directly. -/
def Method.children (m : Method) : List Node :=
  m.header.parameters.map (fun d => .var (.declaration d)) ++ m.body.map .statement ++
    m.result.toList.map .expression

/-- What a class holds directly. -/
def ClassDefinition.children (c : ClassDefinition) : List Node :=
  c.statements.map .statement ++ c.methods.map .method ++ c.nested.map .definition

namespace Node

/-- What a node holds directly. -/
def children : Node → List Node
  | var v => v.children
  | assignment a => a.children
  | expression e => e.children
  | statement s => s.children
  | method m => m.children
  | definition c => c.children

/-- Whether a node lies anywhere in another one, which lies in itself. -/
inductive Within (m : Node) : Node → Prop
  | self : Within m m
  | child {n c : Node} (hc : c ∈ n.children) (h : Within m c) : Within m n

end Node

/-! ## Drafts -/

/-- What is put together before a node is built. -/
inductive Draft where
  | var (d : VariableDraft)
  | call (d : CallDraft)
  | create (d : CreateDraft)
  | anonymousClass (d : AnonymousClassDraft)
  | conditional (d : ConditionalDraft)
  | tryCatch (d : TryDraft)
  | method (d : MethodDraft)
  | definition (d : ClassDraft)

/-- The expressions that are there, as nodes. -/
def presentExprs (es : List (Option Expr)) : List Node := (es.filterMap id).map .expression

/-- The statements that are there, as nodes. -/
def presentStatements (ss : List (Option Statement)) : List Node :=
  (ss.filterMap id).map .statement

@[simp] theorem presentExprs_map_some (es : List Expr) :
    presentExprs (es.map some) = es.map .expression := by
  simp [presentExprs]

@[simp] theorem presentStatements_map_some (ss : List Statement) :
    presentStatements (ss.map some) = ss.map .statement := by
  simp [presentStatements]

@[simp] theorem presentExprs_singleton (e : Option Expr) :
    presentExprs [e] = e.toList.map .expression := by
  cases e <;> rfl

namespace Draft

/-- The nodes that a draft is put together from. -/
def parts : Draft → List Node
  | var d => presentExprs [d.object]
  | call d => presentExprs [d.object] ++ presentExprs d.arguments
  | create d => presentExprs d.arguments
  | anonymousClass d => presentStatements d.statements ++ (d.methods.filterMap id).map .method
  | conditional d =>
    presentExprs [d.condition] ++ presentStatements d.body ++
      d.elseIfs.flatMap (fun b => .expression b.1 :: presentStatements b.2) ++
      presentStatements d.otherwise
  | tryCatch d =>
    d.resource.toList.map .assignment ++ presentStatements d.body ++
      d.caught.toList.map .var ++ presentStatements d.handler
  | method d =>
    (d.parameters.filterMap id).map .var ++ presentStatements d.body ++
      presentExprs [d.result]
  | definition d =>
    presentStatements d.statements ++ (d.methods.filterMap id).map .method ++
      (d.nested.filterMap id).map .definition

/-- The node that the draft describes. -/
def build : Draft → Checked Node
  | var d => .var <$> d.build
  | call d => .expression <$> d.build
  | create d => .expression <$> d.build
  | anonymousClass d => .expression <$> d.build
  | conditional d => .statement <$> d.build
  | tryCatch d => .statement <$> d.build
  | method d => .method <$> d.build
  | definition d => .definition <$> d.build

end Draft

/-- The draft that a statement is built from, if it has one. -/
def Statement.toDraft? : Statement → Option Draft
  | s@(.conditional ..) => s.toConditionalDraft?.map .conditional
  | s@(.tryCatch ..) => s.toTryDraft?.map .tryCatch
  | _ => none

/-- The draft that a node is built from, if it has one. -/
def Node.toDraft? : Node → Option Draft
  | var v => some (.var v.toDraft)
  | assignment _ => none
  | expression e => e.toCallDraft?.map .call
  | statement s => s.toDraft?
  | method m => some (.method m.toDraft)
  | definition c => some (.definition c.toDraft)

theorem Statement.toDraft?_of_conditional {s : Statement} {d : ConditionalDraft}
    (h : s.toConditionalDraft? = some d) : s.toDraft? = some (.conditional d) := by
  cases s <;> cases h
  rfl

theorem Statement.toDraft?_of_tryCatch {s : Statement} {d : TryDraft}
    (h : s.toTryDraft? = some d) : s.toDraft? = some (.tryCatch d) := by
  cases s <;> cases h
  rfl

/-- The draft of a node is put together from just what the node holds. -/
theorem Node.parts_of_toDraft? {n : Node} {d : Draft} (h : n.toDraft? = some d) :
    d.parts = n.children := by
  cases n with
  | var v =>
    cases h
    cases v with
    | declaration d => rfl
    | use v receiver => exact presentExprs_singleton _
  | assignment a => cases h
  | expression e =>
    cases e with
    | call name receiver gs as type =>
      cases h
      simp [Draft.parts, children, Expr.children, Receiver.children]
    | _ => cases h
  | statement s =>
    cases s with
    | conditional first others otherwise =>
      cases h
      simp [Draft.parts, children, Statement.children, Branch.children, List.flatMap_map]
    | tryCatch resource body handler =>
      cases h
      simp [Draft.parts, children, Statement.children]
    | _ => cases h
  | method m =>
    cases h
    simp [Draft.parts, children, Method.children, Method.toDraft, Function.comp_def]
  | definition c =>
    cases h
    simp [Draft.parts, children, ClassDefinition.children, ClassDefinition.toDraft]

end JavaSyntax
