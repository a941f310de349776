import JavaSyntax.Proofs.Shapes.Trees
import JavaSyntax.Proofs.Source.Comments
import JavaSyntax.Proofs.Source.Literals
import JavaSyntax.Writer

/-!
# Balance of source text

In the text that a writer produces for a tree, every literal and comment ends where it should,
and the brackets of the remaining code are matched. Being closed is a shape, and so every tree has
it: expressions, statements, methods and classes are closed, while a branch and a handler lead from
inside the braces before them to inside their own.
-/

set_option autoImplicit false

namespace JavaSyntax

/-- The reading of what is written with the names of a table. -/
def ImportTable.reading (t : ImportTable) (strict : Bool) (width : Nat) : Reading where
  strict := strict
  width := width
  nameOf := t.nameOf
  isPlain_nameOf := fun r => (isOrdinary_nameOf t r).isPlain

namespace Doc

variable {reading : Reading}

theorem isClosed_quoted (text : String) : IsClosed reading (ofText (Text.quoted text)) :=
  fun brackets => leads_text (Scan.run_quoted reading.strict brackets text)

theorem isClosed_literal {l : Literal} (h : (Leaf.literal l).IsTame reading.strict) :
    IsClosed reading (ofText l.text) :=
  fun _ => leads_text (Scan.run_literal l h)

/-- The body of a class that is written in a line. -/
theorem isClosed_body {d : Doc} (h : IsClosed reading d) :
    IsClosed reading ([.text "() \x7b", .newline] ++ nest d ++ [.margin 0, .text "\x7d"]) := by
  intro brackets
  have hleft : Leads reading (ofText "() \x7b") ⟨.code, brackets⟩ ⟨.code, .curly :: brackets⟩ :=
    leads_text rfl
  have hright : Leads reading (ofText "\x7d") ⟨.code, .curly :: brackets⟩ ⟨.code, brackets⟩ :=
    leads_text rfl
  exact ((hleft.append (leads_newline rfl)).append (h.nest _)).append
    ((leads_margin rfl 0).append hright)

/-- What leads from braces to the same braces, between the lines that open and close them. -/
theorem isClosed_braces {heading inner : Doc} {opening : String} (hheading : IsClosed reading heading)
    (hopening : opening ∈ ["\x7b", " \x7b"])
    (hinner : ∀ brackets,
      Leads reading inner ⟨.code, .curly :: brackets⟩ ⟨.code, .curly :: brackets⟩) :
    IsClosed reading (line (heading ++ ofText opening) ++ inner ++ line (ofText "\x7d")) := by
  intro brackets
  have hopen : Scan.run reading.strict ⟨.code, brackets⟩ opening.toList
      = some ⟨.code, .curly :: brackets⟩ := by
    simp only [List.mem_cons, List.not_mem_nil, or_false] at hopening
    rcases hopening with rfl | rfl <;> rfl
  exact ((hheading.opening hopen).append (hinner brackets)).append (leads_closing brackets)

/-- A line that ends one body and begins the next. -/
theorem leads_heading {word : String} {d : Doc} (hword : word ∈ ["\x7d else if ", "\x7d catch "])
    (hd : IsClosed reading d) (brackets : List Bracket) :
    Leads reading (line (ofText word ++ parens d ++ ofText " \x7b"))
      ⟨.code, .curly :: brackets⟩ ⟨.code, .curly :: brackets⟩ := by
  have hend : Scan.run reading.strict ⟨.code, .curly :: brackets⟩ word.toList
      = some ⟨.code, brackets⟩ := by
    simp only [List.mem_cons, List.not_mem_nil, or_false] at hword
    rcases hword with rfl | rfl <;> rfl
  exact Leads.line (((leads_text hend).append (hd.parens _)).append (leads_text rfl))

/-- Being closed, if the comments and literals are tame. Between the outer braces of a statement a
document leads from inside of them to inside of them. -/
def closedShape (reading : Reading) : Shape where
  Inline := IsClosed reading
  Lines := IsClosed reading
  Inner d := ∀ brackets, Leads reading d ⟨.code, .curly :: brackets⟩ ⟨.code, .curly :: brackets⟩
  Allows leaf := leaf.IsTame reading.strict
  inline_nil := isClosed_nil
  inline_append := IsClosed.append
  inline_text h := isClosed_text h.isPlain
  inline_name := isClosed_name
  inline_quoted := isClosed_quoted
  inline_literal := isClosed_literal
  inline_parens := IsClosed.parens
  inline_body := isClosed_body
  lines_nil := isClosed_nil
  lines_append := IsClosed.append
  lines_newline := isClosed_newline
  lines_comment := isClosed_comment
  lines_line h _ := h.line
  lines_braces := isClosed_braces
  inner_nil _ := leads_nil _
  inner_append hc hd brackets := (hc brackets).append (hd brackets)
  inner_body h _ := h.nest _
  inner_else _ := Leads.line (leads_text rfl)
  inner_heading := leads_heading

theorem isClosed_statements (body : List Statement)
    (h : ∀ leaf ∈ statementsLeaves body, leaf.IsTame reading.strict) :
    IsClosed reading (statementsDoc body) :=
  (closedShape reading).lines_statements body h

theorem isClosed_class (c : ClassDefinition)
    (h : ∀ leaf ∈ c.leaves, leaf.IsTame reading.strict) : IsClosed reading c.doc :=
  (closedShape reading).lines_class c h

end Doc

namespace Writer

/-- A closed document on a new page. -/
theorem run_source_put {d : Doc} {strict : Bool}
    (h : ∀ reading : Reading, reading.strict = strict → Doc.IsClosed reading d)
    (w : Writer) (t : ImportTable) (package : Option String) :
    Scan.run strict .start ((((w.reset t).put d).take package).1.source).toList = some .start := by
  rw [source_put_reset]
  exact h ((t.enterAll (Doc.references d)).reading strict w.options.indentWidth) rfl [] 0

/-- No text of a tree breaks out of its literal or comment: the source of a class or of statements
ends in code, and its round and curly brackets are nested and all closed. -/
theorem source_balanced (w : Writer) (strict : Bool) :
    (∀ c : ClassDefinition, (∀ leaf ∈ c.leaves, leaf.IsTame strict) →
      Scan.run strict .start (w.writeClass c).1.source.toList = some .start) ∧
    (∀ body : List Statement, (∀ leaf ∈ statementsLeaves body, leaf.IsTame strict) →
      Scan.run strict .start (w.writeStatements body).1.source.toList = some .start) := by
  constructor
  · intro c h
    apply run_source_put
    rintro reading rfl
    exact Doc.isClosed_class c h
  · intro body h
    apply run_source_put
    rintro reading rfl
    exact Doc.isClosed_statements body h

/-- Every text of this body tries to break out of its place. -/
theorem source_balanced_hazards :
    let hazards : List Statement :=
      [.comment (.line "a /* b \" \x7b"), .comment (.block "*/ c ("),
        .expression (.call { text := "print" } .implicit []
          [.value (.string "\\\") \x7d // */"), .value (.literal ⟨.char, "'\"'", by decide⟩)]
          .void)]
    let method : Method :=
      { header :=
          { comments := [.javadoc ["/ d */", "*/ e"]], annotations := [.generated "f \" )"]
            modifiers := {}, isConstructor := false, returnType := .void
            identifier := { text := "run" }, parameters := [], exceptions := [] }
        body := hazards
        result := none }
    let c : ClassDefinition :=
      { header :=
          { comments := [.block "/*"], annotations := [], placement := .topLevel [], modifiers := {}
            identifier := { text := "Hazards" }, superclass := none, interfaces := [] }
        statements := []
        methods := [method]
        nested := [] }
    let w := ofOptions {}
    Scan.run true .start (w.writeStatements hazards).1.source.toList = some .start ∧
      Scan.run true .start (w.writeClass c).1.source.toList = some .start := by
  intro hazards method c w
  have hstatements : ∀ leaf ∈ statementsLeaves hazards, leaf.IsTame true := by
    simp [hazards, statementsLeaves, Statement.leaves, Expr.leaves, exprsLeaves, Receiver.leaves,
      Value.leaves, Leaf.IsTame, Scan.isLineEnd]
  have hclass : ∀ leaf ∈ c.leaves, leaf.IsTame true := by
    simp only [c, method, ClassDefinition.leaves, methodsLeaves, Method.leaves, classesLeaves]
    simpa [Leaf.IsTame, statementsLeaves] using hstatements
  obtain ⟨hwriteClass, hwriteStatements⟩ := source_balanced w true
  exact ⟨hwriteStatements hazards hstatements, hwriteClass c hclass⟩

end Writer

end JavaSyntax
