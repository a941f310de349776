import JavaSyntax.ClassDefinition.Basic

/-!
# The references that a tree mentions

The type references of expressions, statements, methods and classes, type arguments at any depth
included, in the order of the parts that hold them. A reference is mentioned whether it is written
or not: the class of `this` and the type of a variable that is used are.
-/

set_option autoImplicit false

namespace JavaSyntax

/-! ## Leaves -/

mutual
/-- A reference with all references among its type arguments, at any depth. -/
def Reference.mentions : Reference → List Reference
  | wildcard as => wildcard as :: allMentions as
  | compiled c as supertypes isStatic => compiled c as supertypes isStatic :: allMentions as
  | generated c as parent isStatic => generated c as parent isStatic :: allMentions as

/-- What the references of a list mention. -/
def Reference.allMentions : List Reference → List Reference
  | [] => []
  | r :: rs => mentions r ++ allMentions rs
end

theorem Reference.mentions_eq (r : Reference) : r.mentions = r :: allMentions r.arguments := by
  cases r <;> rfl

/-- The references that a type mentions. -/
def JavaType.mentions (t : JavaType) : List Reference := t.reference?.elim [] Reference.mentions

/-- The references that an annotation mentions. -/
def Annotation.mentions (a : Annotation) : List Reference := a.type.mentions

/-- The references that a declaration mentions. -/
def Declaration.mentions (d : Declaration) : List Reference :=
  d.annotations.flatMap Annotation.mentions ++ d.type.mentions

/-- The references that a value mentions. -/
def Value.mentions : Value → List Reference
  | literal _ | string _ | null => []
  | this t | super t | constant t _ => t.mentions

/-- The references that a method mentions apart from its body. -/
def MethodHeader.mentions (h : MethodHeader) : List Reference :=
  h.annotations.flatMap Annotation.mentions ++ h.returnType.mentions ++
    h.parameters.flatMap Declaration.mentions ++ Reference.allMentions h.exceptions

/-- The references that a class mentions apart from its members. -/
def ClassHeader.mentions (h : ClassHeader) : List Reference :=
  h.annotations.flatMap Annotation.mentions ++ Reference.allMentions h.superclass.toList ++
    Reference.allMentions h.interfaces

/-! ## Trees -/

mutual
/-- The references that an expression mentions. -/
def Expr.mentions : Expr → List Reference
  | .value v => v.mentions
  | .var v => v.mentions
  | .ternary c t f => c.mentions ++ t.mentions ++ f.mentions
  | .assignment target source => target.mentions ++ source.mentions
  | .call _ receiver gs as type =>
    receiver.mentions ++ Reference.allMentions gs ++ exprsMentions as ++ type.mentions
  | .create type as _ => type.mentions ++ exprsMentions as
  | .cast type e => type.mentions ++ e.mentions
  | .instanceOf e type => e.mentions ++ type.mentions
  | .comparison _ l r => l.mentions ++ r.mentions
  | .anonymousClass type ss ms => type.mentions ++ statementsMentions ss ++ methodsMentions ms
  | .delegation _ type as => type.mentions ++ exprsMentions as

/-- The references that expressions mention. -/
def exprsMentions : List Expr → List Reference
  | [] => []
  | e :: es => e.mentions ++ exprsMentions es

/-- The references that are mentioned before a dot. -/
def Receiver.mentions : Receiver → List Reference
  | .implicit => []
  | .object e => e.mentions
  | .owner r => r.mentions

/-- The references that a variable expression mentions. -/
def VariableExpr.mentions : VariableExpr → List Reference
  | .declaration d => d.mentions
  | .use v receiver => receiver.mentions ++ v.type.mentions

/-- The references that a statement mentions. -/
def Statement.mentions : Statement → List Reference
  | .expression e => e.mentions
  | .block _ body => statementsMentions body
  | .conditional ⟨c, body⟩ others otherwise =>
    c.mentions ++ statementsMentions body ++ branchesMentions others ++ statementsMentions otherwise
  | .forEach item collection body =>
    item.mentions ++ collection.mentions ++ statementsMentions body
  | .whileLoop c body => c.mentions ++ statementsMentions body
  | .tryCatch resource body handler =>
    resource.mentions ++ statementsMentions body ++ handler.mentions
  | .comment _ | .emptyLine => []

/-- The references that statements mention. -/
def statementsMentions : List Statement → List Reference
  | [] => []
  | s :: ss => s.mentions ++ statementsMentions ss

/-- The references that branches mention. -/
def branchesMentions : List Branch → List Reference
  | [] => []
  | ⟨c, body⟩ :: rest => c.mentions ++ statementsMentions body ++ branchesMentions rest

/-- The references that a resource mentions. -/
def Resource.mentions : Resource → List Reference
  | .absent => []
  | .binding d source => d.mentions ++ source.mentions

/-- The references that a handler mentions. -/
def Handler.mentions : Handler → List Reference
  | .omitted => []
  | .sample v body => v.mentions ++ statementsMentions body
  | .executable d body => d.mentions ++ statementsMentions body

/-- The references that a method mentions. -/
def Method.mentions : Method → List Reference
  | ⟨h, body, none⟩ => h.mentions ++ statementsMentions body
  | ⟨h, body, some e⟩ => h.mentions ++ (statementsMentions body ++ e.mentions)

/-- The references that methods mention. -/
def methodsMentions : List Method → List Reference
  | [] => []
  | m :: ms => m.mentions ++ methodsMentions ms
end

mutual
/-- The references that a class mentions. -/
def ClassDefinition.mentions : ClassDefinition → List Reference
  | ⟨h, ss, ms, nested⟩ =>
    h.mentions ++ (statementsMentions ss ++ methodsMentions ms ++ classesMentions nested)

/-- The references that classes mention. -/
def classesMentions : List ClassDefinition → List Reference
  | [] => []
  | c :: cs => c.mentions ++ classesMentions cs
end

end JavaSyntax
