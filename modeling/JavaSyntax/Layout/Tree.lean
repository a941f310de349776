import JavaSyntax.Layout.Leaf

/-!
# Documents of trees

How expressions, statements and methods are written. An operand that could be torn apart by the
operator next to it stands between brackets. In the body of a class a blank line separates the
statements, which are one group, from the methods, each of which is one of its own.
-/

set_option autoImplicit false

namespace JavaSyntax

/-- Whether an expression must be bracketed where it is an operand or a receiver. -/
def Expr.bindsLoosely : Expr → Bool
  | ternary .. | assignment .. | instanceOf .. | comparison .. => true
  | _ => false

/-- The document of an operand, from the document of the expression. -/
def Expr.operand (e : Expr) (d : Doc) : Doc := if e.bindsLoosely then Doc.parens d else d

/-- Whether nothing stands before the dot. -/
def Receiver.isImplicit : Receiver → Bool
  | implicit => true
  | _ => false

namespace Layout

/-- The explicit type arguments of a call, each by the name of its class alone. -/
def typeArguments (rs : List Reference) : Doc :=
  if rs.isEmpty then []
  else .text "<" :: Doc.commaSeparated (rs.map fun r => [.name r]) ++ [.text ">"]

/-- The type of an object that is created; the diamond only stands in for type arguments that
are not there. -/
def created (type : Reference) (isDiamond : Bool) : Doc :=
  if isDiamond && type.arguments.isEmpty then [.name type, .text "<>"] else type.doc

/-- Annotations on lines of their own. -/
def annotationLines (annotations : List Annotation) : Doc :=
  annotations.flatMap fun a => Doc.line a.doc

/-- Classes behind a word, or nothing. -/
def clause (word : String) (rs : List Reference) : Doc :=
  if rs.isEmpty then [] else .text (" " ++ word ++ " ") :: Doc.commaSeparated (rs.map Reference.doc)

/-- Everything of a method up to its body. -/
def methodHead (h : MethodHeader) : Doc :=
  Doc.words h.modifiers.words ++
    (if h.isConstructor then [] else h.returnType.doc ++ Doc.ofText " ") ++
    Doc.ofText h.identifier.text ++
    Doc.parens (Doc.commaSeparated (h.parameters.map Declaration.doc)) ++
    clause "throws" h.exceptions

/-- The comments and annotations above a method or class. -/
def preamble (comments : List Comment) (annotations : List Annotation) : Doc :=
  comments.flatMap Comment.doc ++ annotationLines annotations

/-- A method, from the document of its body. -/
def method (h : MethodHeader) (body : Doc) : Doc :=
  preamble h.comments h.annotations ++
    if h.modifiers.isAbstract then Doc.line (methodHead h ++ Doc.ofText ";")
    else Doc.braced (methodHead h ++ Doc.ofText " ") body

end Layout

open Layout in
mutual
/-- An expression, without indentation or terminator. -/
def Expr.doc : Expr → Doc
  | .value v => v.doc
  | .var v => v.doc
  | .ternary c t f =>
    c.operand c.doc ++ Doc.ofText " ? " ++ t.operand t.doc ++ Doc.ofText " : " ++ f.operand f.doc
  | .assignment target source => target.doc ++ Doc.ofText " = " ++ source.doc
  | .call name receiver gs as _ =>
    receiver.doc ++ (if receiver.isImplicit then [] else typeArguments gs) ++
      Doc.ofText name.text ++ Doc.parens (Doc.commaSeparated (exprDocs as))
  | .create type as isDiamond =>
    Doc.ofText "new " ++ created type isDiamond ++ Doc.parens (Doc.commaSeparated (exprDocs as))
  | .cast type e =>
    Doc.parens (Doc.parens type.doc ++ Doc.ofText " " ++ e.operand e.doc)
  | .instanceOf e type => e.operand e.doc ++ Doc.ofText " instanceof " ++ type.rawDoc
  | .comparison operator l r =>
    l.operand l.doc ++ Doc.ofText (" " ++ operator.symbol ++ " ") ++ r.operand r.doc
  | .anonymousClass type ss ms =>
    Doc.ofText "new " ++ type.doc ++ [.text "() \x7b", .newline] ++
      Doc.nest
        (Doc.blankSeparated ((if ss.isEmpty then [] else [statementsDoc ss]) ++ methodDocs ms)) ++
      [.margin 0, .text "\x7d"]
  | .delegation target _ as =>
    Doc.ofText target.keyword ++ Doc.parens (Doc.commaSeparated (exprDocs as))

/-- Each expression of a list. -/
def exprDocs : List Expr → List Doc
  | [] => []
  | e :: es => e.doc :: exprDocs es

/-- A receiver with its dot, or nothing. -/
def Receiver.doc : Receiver → Doc
  | .implicit => []
  | .object e => e.operand e.doc ++ Doc.ofText "."
  | .owner r => [.name r, .text "."]

/-- The declaration or use of a variable. -/
def VariableExpr.doc : VariableExpr → Doc
  | .declaration d => d.doc
  | .use v receiver => receiver.doc ++ Doc.ofText v.name

/-- A statement, on lines of its own. -/
def Statement.doc : Statement → Doc
  | .expression e => Doc.line (e.doc ++ Doc.ofText ";")
  | .block isStatic body =>
    Doc.braced (if isStatic then Doc.ofText "static " else []) (statementsDoc body)
  | .conditional ⟨c, body⟩ others otherwise =>
    Doc.line (Doc.ofText "if " ++ Doc.parens c.doc ++ Doc.ofText " \x7b") ++
      Doc.nest (statementsDoc body) ++ branchesDoc others ++
      (if otherwise.isEmpty then [] else
        Doc.line (Doc.ofText "\x7d else \x7b") ++ Doc.nest (statementsDoc otherwise)) ++
      Doc.line (Doc.ofText "\x7d")
  | .forEach item collection body =>
    Doc.braced
      (Doc.ofText "for " ++ Doc.parens (item.doc ++ Doc.ofText " : " ++ collection.doc) ++
        Doc.ofText " ")
      (statementsDoc body)
  | .whileLoop c body =>
    Doc.braced (Doc.ofText "while " ++ Doc.parens c.doc ++ Doc.ofText " ") (statementsDoc body)
  | .tryCatch resource body handler =>
    Doc.line (Doc.ofText "try " ++ resource.doc ++ Doc.ofText "\x7b") ++
      Doc.nest (statementsDoc body) ++ handler.doc ++ Doc.line (Doc.ofText "\x7d")
  | .comment c => c.doc
  | .emptyLine => [.newline]

/-- Statements at one level, in order. -/
def statementsDoc : List Statement → Doc
  | [] => []
  | s :: ss => s.doc ++ statementsDoc ss

/-- The branches after the first, each without its closing brace. -/
def branchesDoc : List Branch → Doc
  | [] => []
  | ⟨c, body⟩ :: rest =>
    Doc.line (Doc.ofText "\x7d else if " ++ Doc.parens c.doc ++ Doc.ofText " \x7b") ++
      Doc.nest (statementsDoc body) ++ branchesDoc rest

/-- A resource in brackets and the space behind it, or nothing. -/
def Resource.doc : Resource → Doc
  | .absent => []
  | .binding d source => Doc.parens (d.doc ++ Doc.ofText " = " ++ source.doc) ++ Doc.ofText " "

/-- The handler of a `try`, without its closing brace. -/
def Handler.doc : Handler → Doc
  | .omitted => []
  | .sample v body =>
    Doc.line (Doc.ofText "\x7d catch " ++ Doc.parens v.doc ++ Doc.ofText " \x7b") ++
      Doc.nest (statementsDoc body)
  | .executable d body =>
    Doc.line (Doc.ofText "\x7d catch " ++ Doc.parens d.doc ++ Doc.ofText " \x7b") ++
      Doc.nest (statementsDoc body)

/-- A method, on lines of its own. -/
def Method.doc : Method → Doc
  | ⟨h, body, none⟩ => Layout.method h (statementsDoc body)
  | ⟨h, body, some e⟩ =>
    Layout.method h
      (statementsDoc body ++ Doc.line (Doc.ofText "return " ++ e.doc ++ Doc.ofText ";"))

/-- Each method of a list. -/
def methodDocs : List Method → List Doc
  | [] => []
  | m :: ms => m.doc :: methodDocs ms
end

/-- Expressions in brackets, as the arguments of a call. -/
def argumentsDoc (es : List Expr) : Doc := Doc.parens (Doc.commaSeparated (exprDocs es))

end JavaSyntax
