import JavaSyntax.ClassDefinition.Basic
import JavaSyntax.Layout.Tree

/-!
# Documents of classes

How a class is written, with its members and nested classes.
-/

set_option autoImplicit false

namespace JavaSyntax

namespace Layout

/-- Everything of a class up to its body. -/
def classHead (h : ClassHeader) : Doc :=
  Doc.words h.modifiers.words ++ Doc.ofText ("class " ++ h.identifier.text) ++
    clause "extends" h.superclass.toList ++ clause "implements" h.interfaces

end Layout

mutual
/-- A class, on lines of its own. -/
def ClassDefinition.doc : ClassDefinition → Doc
  | ⟨h, statements, methods, nested⟩ =>
    Layout.preamble h.comments h.annotations ++
      Doc.braced (Layout.classHead h ++ Doc.ofText " ")
        (Doc.blankSeparated
          ((if statements.isEmpty then [] else [statementsDoc statements]) ++
            methodDocs methods ++ classDocs nested))

/-- Each class of a list. -/
def classDocs : List ClassDefinition → List Doc
  | [] => []
  | c :: cs => c.doc :: classDocs cs
end

end JavaSyntax
