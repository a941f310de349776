import JavaSyntax.Layout.Doc
import JavaSyntax.Comment
import JavaSyntax.Text.Lines
import JavaSyntax.Text.Quoted
import JavaSyntax.Tree.Basic

/-!
# Documents of leaves

How types, annotations, comments, modifiers and values are written.
-/

set_option autoImplicit false

namespace JavaSyntax

/-! ## Types -/

mutual
/-- A class with its type arguments. -/
def Reference.doc : Reference → Doc
  | wildcard as => .name (wildcard as) :: argumentsDoc as
  | compiled c as supertypes isStatic =>
    .name (compiled c as supertypes isStatic) :: argumentsDoc as
  | generated c as parent isStatic => .name (generated c as parent isStatic) :: argumentsDoc as

/-- Type arguments between angle brackets, or nothing. -/
def Reference.argumentsDoc : List Reference → Doc
  | [] => []
  | a :: as => .text "<" :: doc a ++ furtherDoc as ++ [.text ">"]

/-- The type arguments after the first, each behind a comma. -/
def Reference.furtherDoc : List Reference → Doc
  | [] => []
  | a :: as => .text ", " :: doc a ++ furtherDoc as
end

/-- Whatever is known of a class, it is written by its name, with the type arguments behind it. -/
theorem Reference.doc_eq (r : Reference) : r.doc = .name r :: argumentsDoc r.arguments := by
  cases r <;> rfl

namespace JavaType

/-- The brackets behind the element of an array. -/
def bracketsDoc (t : JavaType) : Doc := if t.isArray then Doc.ofText "[]" else []

/-- A type with its type arguments. -/
def doc (t : JavaType) : Doc := t.reference?.elim (Doc.ofText t.kind.keyword) (·.doc) ++ t.bracketsDoc

/-- A type without its type arguments. -/
def rawDoc (t : JavaType) : Doc :=
  t.reference?.elim (Doc.ofText t.kind.keyword) (fun r => [.name r]) ++ t.bracketsDoc

end JavaType

/-! ## Annotations and modifiers -/

/-- An annotation, with its text in brackets if it has one. -/
def Annotation.doc (a : Annotation) : Doc :=
  .text "@" :: .name a.type ::
    a.description.elim [] fun text => Doc.parens (Doc.ofText (Text.quoted text))

/-- A variable where it is declared: annotations, modifiers, type and name. -/
def Declaration.doc (d : Declaration) : Doc :=
  d.annotations.flatMap (fun a => a.doc ++ Doc.ofText " ") ++ Doc.words d.modifiers.words ++
    d.type.doc ++ Doc.ofText (" " ++ d.name)

/-! ## Comments -/

/-- A line of a comment: the marker, and the text behind a space unless it is empty. -/
def Comment.lineDoc (marker text : String) : Doc :=
  Doc.line (Doc.ofText (if text.isEmpty then marker else marker ++ " " ++ text))

/-- The characters of a text in which no comment ends: the slash of every end of a comment is
kept, and the star before it is written as its character reference. -/
def Comment.defuse : List Char → List Char
  | '*' :: '/' :: rest => "&#42;/".toList ++ defuse rest
  | c :: rest => c :: defuse rest
  | [] => []

/-- Making a text harmless adds no characters to it but those of the character reference. -/
theorem Comment.not_mem_defuse {c : Char} {cs : List Char} (hc : c ∉ "&#42;/".toList)
    (h : c ∉ cs) : c ∉ defuse cs := by
  fun_induction defuse cs with
  | case1 rest ih =>
    simp only [List.mem_cons, not_or] at h
    rw [List.mem_append, not_or]
    exact ⟨hc, ih h.2.2⟩
  | case2 d rest hend ih =>
    simp only [List.mem_cons, not_or] at h ⊢
    exact ⟨h.1, ih h.2⟩
  | case3 => exact h

/-- The lines of a comment between delimiters. -/
def Comment.delimitedDoc (opening : String) (lines : List String) : Doc :=
  Doc.line (Doc.ofText opening) ++
    lines.flatMap (fun l => lineDoc " *" (String.ofList (defuse l.toList))) ++
    Doc.line (Doc.ofText " */")

/-- A comment. A line comment without text is a marker alone. -/
def Comment.doc : Comment → Doc
  | line text =>
    if text.isEmpty then lineDoc "//" "" else (Text.lines text).flatMap (lineDoc "//")
  | block text => delimitedDoc "/*" (Text.lines text)
  | javadoc entries => delimitedDoc "/**" entries

/-! ## Values -/

/-- A value. -/
def Value.doc : Value → Doc
  | literal l => Doc.ofText l.text
  | string text => Doc.ofText (Text.quoted text)
  | null => Doc.ofText "null"
  | this _ => Doc.ofText "this"
  | super _ => Doc.ofText "super"
  | constant type name => type.rawDoc ++ Doc.ofText ("." ++ name.text)

end JavaSyntax
