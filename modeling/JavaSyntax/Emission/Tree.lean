import JavaSyntax.Emission.Action

/-!
# Emission of trees

The actions that write expressions, statements, methods and classes. Only these have an inside that
is written one level further in: the bodies of statements, methods and classes.
-/

set_option autoImplicit false

namespace JavaSyntax

variable {bits : Nat}

namespace Emission

/-- The action that writes an operand, from the one that writes the expression. -/
def operand (e : Expr) (m : Emission bits) : Emission bits :=
  if e.bindsLoosely then parens m else m

/-- Writes expressions in brackets. -/
def applied (ms : List (Emission bits)) : Emission bits := parens (separated (text ", ") ms)

/-- Writes the members of a class, the statements first unless there are none. -/
def members (isAbsent : Bool) (statements : Emission bits) (others : List (Emission bits)) :
    Emission bits :=
  separated (put [.newline]) ((if isAbsent then [] else [statements]) ++ others)

/-- Writes a method, given how its body is written. -/
def method (h : MethodHeader) (body : Emission bits) : Emission bits :=
  put (Layout.preamble h.comments h.annotations) ++
    if h.modifiers.isAbstract then line (put (Layout.methodHead h) ++ text ";")
    else braced (put (Layout.methodHead h) ++ text " ") body

end Emission

open Emission in
mutual
/-- Writes an expression, without indentation or terminator. -/
def Expr.emission : Expr → Emission bits
  | .value v => put v.doc
  | .var v => v.emission
  | .ternary c t f =>
    operand c c.emission ++ text " ? " ++ operand t t.emission ++ text " : " ++
      operand f f.emission
  | .assignment target source => target.emission ++ text " = " ++ source.emission
  | .call name receiver gs as _ =>
    receiver.emission ++ put (if receiver.isImplicit then [] else Layout.typeArguments gs) ++
      text name.text ++ applied (exprEmissions as)
  | .create type as isDiamond =>
    text "new " ++ put (Layout.created type isDiamond) ++ applied (exprEmissions as)
  | .cast type e => parens (parens (put type.doc) ++ text " " ++ operand e e.emission)
  | .instanceOf e type => operand e e.emission ++ text " instanceof " ++ put type.rawDoc
  | .comparison operator l r =>
    operand l l.emission ++ text (" " ++ operator.symbol ++ " ") ++ operand r r.emission
  | .anonymousClass type ss ms =>
    text "new " ++ put type.doc ++ put [.text "() \x7b", .newline] ++
      nested (members ss.isEmpty (statementsEmission ss) (methodEmissions ms)) ++
      put [.margin 0, .text "\x7d"]
  | .delegation target _ as => text target.keyword ++ applied (exprEmissions as)

/-- The actions that write the expressions of a list. -/
def exprEmissions : List Expr → List (Emission bits)
  | [] => []
  | e :: es => e.emission :: exprEmissions es

/-- Writes a receiver with its dot, or nothing. -/
def Receiver.emission : Receiver → Emission bits
  | .implicit => skip
  | .object e => operand e e.emission ++ text "."
  | .owner r => put [.name r, .text "."]

/-- Writes the declaration or use of a variable. -/
def VariableExpr.emission : VariableExpr → Emission bits
  | .declaration d => put d.doc
  | .use v receiver => receiver.emission ++ text v.name

/-- Writes a statement, on lines of its own. -/
def Statement.emission : Statement → Emission bits
  | .expression e => line (e.emission ++ text ";")
  | .block isStatic body =>
    braced (put (if isStatic then Doc.ofText "static " else [])) (statementsEmission body)
  | .conditional ⟨c, body⟩ others otherwise =>
    line (text "if " ++ parens c.emission ++ text " \x7b") ++
      nested (statementsEmission body) ++ branchesEmission others ++
      (if otherwise.isEmpty then skip else
        line (text "\x7d else \x7b") ++ nested (statementsEmission otherwise)) ++
      line (text "\x7d")
  | .forEach item collection body =>
    braced (text "for " ++ parens (put item.doc ++ text " : " ++ collection.emission) ++ text " ")
      (statementsEmission body)
  | .whileLoop c body =>
    braced (text "while " ++ parens c.emission ++ text " ") (statementsEmission body)
  | .tryCatch resource body handler =>
    line (text "try " ++ resource.emission ++ text "\x7b") ++
      nested (statementsEmission body) ++ handler.emission ++ line (text "\x7d")
  | .comment c => put c.doc
  | .emptyLine => put [.newline]

/-- Writes statements at one level, in order. -/
def statementsEmission : List Statement → Emission bits
  | [] => skip
  | s :: ss => s.emission ++ statementsEmission ss

/-- Writes the branches after the first, each without its closing brace. -/
def branchesEmission : List Branch → Emission bits
  | [] => skip
  | ⟨c, body⟩ :: rest =>
    line (text "\x7d else if " ++ parens c.emission ++ text " \x7b") ++
      nested (statementsEmission body) ++ branchesEmission rest

/-- Writes a resource in brackets and the space behind it, or nothing. -/
def Resource.emission : Resource → Emission bits
  | .absent => skip
  | .binding d source => parens (put d.doc ++ text " = " ++ source.emission) ++ text " "

/-- Writes the handler of a `try`, without its closing brace. -/
def Handler.emission : Handler → Emission bits
  | .omitted => skip
  | .sample v body =>
    line (text "\x7d catch " ++ parens v.emission ++ text " \x7b") ++
      nested (statementsEmission body)
  | .executable d body =>
    line (text "\x7d catch " ++ parens (put d.doc) ++ text " \x7b") ++
      nested (statementsEmission body)

/-- Writes a method, on lines of its own. -/
def Method.emission : Method → Emission bits
  | ⟨h, body, none⟩ => Emission.method h (statementsEmission body)
  | ⟨h, body, some e⟩ =>
    Emission.method h
      (statementsEmission body ++ line (text "return " ++ e.emission ++ text ";"))

/-- The actions that write the methods of a list. -/
def methodEmissions : List Method → List (Emission bits)
  | [] => []
  | m :: ms => m.emission :: methodEmissions ms
end

open Emission in
mutual
/-- Writes a class, on lines of its own. -/
def ClassDefinition.emission : ClassDefinition → Emission bits
  | ⟨h, ss, ms, inner⟩ =>
    put (Layout.preamble h.comments h.annotations) ++
      braced (put (Layout.classHead h) ++ text " ")
        (members ss.isEmpty (statementsEmission ss)
          (methodEmissions ms ++ classEmissions inner))

/-- The actions that write the classes of a list. -/
def classEmissions : List ClassDefinition → List (Emission bits)
  | [] => []
  | c :: cs => c.emission :: classEmissions cs
end

/-! ## What can be written -/

/-- What a writer can be given to write. -/
inductive Fragment where
  | expr (e : Expr)
  | var (v : VariableExpr)
  | arguments (es : List Expr)
  | statement (s : Statement)
  | body (ss : List Statement)
  | comment (c : Comment)
  | method (m : Method)
  | definition (c : ClassDefinition)

namespace Fragment

/-- The document of what is written. -/
def doc : Fragment → Doc
  | expr e => e.doc
  | var v => v.doc
  | arguments es => argumentsDoc es
  | statement s => s.doc
  | body ss => statementsDoc ss
  | comment c => c.doc
  | method m => m.doc
  | definition c => c.doc

/-- The action that writes it. -/
def emission : Fragment → Emission bits
  | expr e => e.emission
  | var v => v.emission
  | arguments es => Emission.applied (exprEmissions es)
  | statement s => s.emission
  | body ss => statementsEmission ss
  | comment c => Emission.put c.doc
  | method m => m.emission
  | definition c => c.emission

end Fragment

namespace WordWriter

/-- The same writer with an empty page and a given table. -/
def reset (w : WordWriter bits) (imports : ImportTable) : WordWriter bits :=
  { w with imports := imports, buffer := "", indentLevel := 0 }

/-- Takes the text off the page; its imports are still known. -/
def take (w : WordWriter bits) (package : Option String) : Emitted × WordWriter bits :=
  ({ package := package, imports := w.imports.imports, source := w.buffer },
    { w with buffer := "" })

/-- The writer with its numbers as numbers of any size. -/
def toWriter (w : WordWriter bits) : Writer where
  options := { indentWidth := w.indentWidth.toNat, emitPackage := w.emitPackage }
  imports := w.imports
  buffer := w.buffer
  indentLevel := w.indentLevel.toNat

/-- Writes a class on a new page. -/
def writeClass (a : Arithmetic) (w : WordWriter bits) (c : ClassDefinition) :
    Except Overflow (Emitted × WordWriter bits) := do
  let table := Writer.reserveNames (ImportTable.empty c.packageName) c.packageName c
  let page ← c.emission.run a (w.reset table)
  return page.take (Writer.packageOf w.toWriter.options c)

/-- Writes statements on a new page, in no package. -/
def writeStatements (a : Arithmetic) (w : WordWriter bits) (body : List Statement) :
    Except Overflow (Emitted × WordWriter bits) := do
  let page ← (statementsEmission body).run a (w.reset (ImportTable.empty ""))
  return page.take none

end WordWriter

end JavaSyntax
