import JavaSyntax.ClassDefinition.Basic
import JavaSyntax.Proofs.Source.Scanner

/-!
# Leaves of a tree

The comments and literals of expressions, statements, methods and classes, in the order in which
they are written. These are the only parts of a tree whose text is written as it stands: names
are identifiers, and every other text is quoted.
-/

set_option autoImplicit false

namespace JavaSyntax

/-- A part of a tree whose text is its own. -/
inductive Leaf where
  | comment (c : Comment)
  | literal (l : Literal)

/-- The literal that a value consists of. -/
def Value.leaves : Value → List Leaf
  | .literal l => [.literal l]
  | _ => []

mutual
/-- The leaves of an expression. -/
def Expr.leaves : Expr → List Leaf
  | .value v => v.leaves
  | .var v => v.leaves
  | .ternary c t f => c.leaves ++ t.leaves ++ f.leaves
  | .assignment target source => target.leaves ++ source.leaves
  | .call _ receiver _ as _ => receiver.leaves ++ exprsLeaves as
  | .create _ as _ => exprsLeaves as
  | .cast _ e => e.leaves
  | .instanceOf e _ => e.leaves
  | .comparison _ l r => l.leaves ++ r.leaves
  | .anonymousClass _ ss ms => statementsLeaves ss ++ methodsLeaves ms
  | .delegation _ _ as => exprsLeaves as

/-- The leaves of expressions. -/
def exprsLeaves : List Expr → List Leaf
  | [] => []
  | e :: es => e.leaves ++ exprsLeaves es

/-- The leaves of what stands before a dot. -/
def Receiver.leaves : Receiver → List Leaf
  | .implicit => []
  | .object e => e.leaves
  | .owner _ => []

/-- The leaves of a variable. -/
def VariableExpr.leaves : VariableExpr → List Leaf
  | .declaration _ => []
  | .use _ receiver => receiver.leaves

/-- The leaves of a statement. -/
def Statement.leaves : Statement → List Leaf
  | .expression e => e.leaves
  | .block _ body => statementsLeaves body
  | .conditional ⟨c, body⟩ others otherwise =>
    c.leaves ++ statementsLeaves body ++ branchesLeaves others ++ statementsLeaves otherwise
  | .forEach _ collection body => collection.leaves ++ statementsLeaves body
  | .whileLoop c body => c.leaves ++ statementsLeaves body
  | .tryCatch resource body handler => resource.leaves ++ statementsLeaves body ++ handler.leaves
  | .comment c => [.comment c]
  | .emptyLine => []

/-- The leaves of statements. -/
def statementsLeaves : List Statement → List Leaf
  | [] => []
  | s :: ss => s.leaves ++ statementsLeaves ss

/-- The leaves of branches. -/
def branchesLeaves : List Branch → List Leaf
  | [] => []
  | ⟨c, body⟩ :: rest => c.leaves ++ statementsLeaves body ++ branchesLeaves rest

/-- The leaves of a resource. -/
def Resource.leaves : Resource → List Leaf
  | .absent => []
  | .binding _ source => source.leaves

/-- The leaves of a handler. -/
def Handler.leaves : Handler → List Leaf
  | .omitted => []
  | .sample v body => v.leaves ++ statementsLeaves body
  | .executable _ body => statementsLeaves body

/-- The leaves of a method. -/
def Method.leaves : Method → List Leaf
  | ⟨h, body, none⟩ => h.comments.map .comment ++ statementsLeaves body
  | ⟨h, body, some e⟩ => h.comments.map .comment ++ statementsLeaves body ++ e.leaves

/-- The leaves of methods. -/
def methodsLeaves : List Method → List Leaf
  | [] => []
  | m :: ms => m.leaves ++ methodsLeaves ms
end

mutual
/-- The leaves of a class. -/
def ClassDefinition.leaves : ClassDefinition → List Leaf
  | ⟨h, ss, ms, nested⟩ =>
    h.comments.map .comment ++ statementsLeaves ss ++ methodsLeaves ms ++ classesLeaves nested

/-- The leaves of classes. -/
def classesLeaves : List ClassDefinition → List Leaf
  | [] => []
  | c :: cs => c.leaves ++ classesLeaves cs
end

/-- Whether a scanner finds the end of a leaf where the writer puts it. A carriage return would end
a line comment early, and a strict scanner refuses a literal with a line end in it. -/
def Leaf.IsTame (strict : Bool) : Leaf → Prop
  | .comment (.line text) => '\r' ∉ text.toList
  | .comment _ => True
  | .literal l => strict = true → ∀ c ∈ l.text.toList, Scan.isLineEnd c = false

end JavaSyntax
