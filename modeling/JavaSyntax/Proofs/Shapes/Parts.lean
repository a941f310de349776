import JavaSyntax.ImportTable
import JavaSyntax.Layout.ClassDefinition
import JavaSyntax.Proofs.Source.Leaves

/-!
# Shapes of documents

What is true of all written text is mostly true because it is kept by the few ways in which the
documents of trees are put together: parts follow each other in a line, lines follow each other,
and lines stand between braces. A `Shape` is a property of documents that is kept by these. It
comes in three forms, for what stands in a line, for whole lines, and for what stands between the
line that opens the braces of a statement and the line that closes them.

Here are the parts of a line: every type, variable and value has every shape, and so has everything
above the body of a method or class.
-/

set_option autoImplicit false

namespace JavaSyntax

/-! ## Ordinary text -/

/-- Whether a text is made of names, words and signs: no scanner reacts to it in code, and it stays
in its line. -/
def IsOrdinary (text : String) : Prop := ∀ c ∈ text.toList, c ∉ '\n' :: Scan.special

-- The Boolean test keeps `decide` on the characters of the text, away from all that there are.
instance : DecidablePred IsOrdinary := fun text =>
  decidable_of_iff (text.toList.all (!('\n' :: Scan.special).contains ·) = true)
    (by simp [IsOrdinary])

theorem IsOrdinary.isPlain {text : String} (h : IsOrdinary text) : Scan.IsPlain text :=
  fun c hc hspecial => h c hc (List.mem_cons_of_mem _ hspecial)

theorem IsOrdinary.newline_not_mem {text : String} (h : IsOrdinary text) : '\n' ∉ text.toList :=
  fun hc => h _ hc List.mem_cons_self

theorem IsOrdinary.append {text other : String} (ht : IsOrdinary text) (ho : IsOrdinary other) :
    IsOrdinary (text ++ other) := by
  intro c hc
  rw [String.toList_append, List.mem_append] at hc
  rcases hc with hc | hc
  · exact ht c hc
  · exact ho c hc

/-- The characters of identifiers are ordinary. -/
theorem not_mem_of_isPart {c : Char} (h : Identifier.isPart c = true) :
    c ∉ '\n' :: Scan.special := by
  rw [List.mem_cons, not_or]
  refine ⟨?_, Scan.not_special_of (by decide) h⟩
  rintro rfl
  exact absurd h (by decide)

theorem isOrdinary_identifier (identifier : Identifier) : IsOrdinary identifier.text :=
  fun _ hc => not_mem_of_isPart (Identifier.isPart_of_mem hc)

theorem isOrdinary_dotted (parts : List Identifier) : IsOrdinary (dotted parts) := by
  intro c hc
  rcases eq_dot_or_isPart_of_mem_dotted hc with rfl | hpart
  · decide
  · exact not_mem_of_isPart hpart

/-- Every name by which a table lets a class be written consists of last parts of its full name. -/
theorem ImportTable.exists_nameOf_eq (t : ImportTable) {r : Reference} {c : ClassName}
    (h : r.className? = some c) :
    ∃ parts, parts ≠ [] ∧ parts <:+ c.parts ∧ t.nameOf r = dotted parts := by
  unfold nameOf Reference.shortName Reference.name Reference.simpleName Reference.fullName
  rw [h]
  split
  · split
    · exact ⟨[c.name], by simp, List.suffix_append_of_suffix (List.suffix_append _ _),
        (dotted_singleton c.name).symm⟩
    · exact ⟨c.enclosing ++ [c.name], by simp, List.suffix_append _ _, rfl⟩
  · exact ⟨c.parts, c.parts_ne_nil, List.suffix_refl _, c.fullName_eq_dotted⟩

/-- Every name by which a table lets a class be written is a dotted name, unless the class is
unknown. -/
theorem ImportTable.nameOf_eq_dotted (t : ImportTable) (r : Reference) :
    t.nameOf r = Reference.wildcardName ∨ ∃ parts, parts ≠ [] ∧ t.nameOf r = dotted parts := by
  cases h : r.className? with
  | none =>
    left
    simp [nameOf, Reference.shortName, Reference.name, Reference.simpleName, Reference.fullName, h]
  | some c =>
    obtain ⟨parts, hne, -, hname⟩ := t.exists_nameOf_eq h
    exact .inr ⟨parts, hne, hname⟩

theorem isOrdinary_nameOf (t : ImportTable) (r : Reference) : IsOrdinary (t.nameOf r) := by
  have hwildcard : IsOrdinary Reference.wildcardName := by decide
  rcases t.nameOf_eq_dotted r with hname | ⟨parts, -, hname⟩
  · rw [hname]
    exact hwildcard
  · rw [hname]
    exact isOrdinary_dotted parts

theorem isOrdinary_keyword (k : Kind) : IsOrdinary k.keyword := by
  cases k with
  | void => decide
  | primitive p => cases p <;> decide
  | object => decide

theorem isOrdinary_modifiers (m : Modifiers) : ∀ w ∈ m.words, IsOrdinary w := by
  obtain ⟨access, isAbstract, isStatic, isFinal⟩ := m
  cases access <;> cases isAbstract <;> cases isStatic <;> cases isFinal <;> decide

/-! ## Shapes -/

/-- Whether something is to be seen of a piece, wherever it stands. -/
def Piece.isVisible : Piece → Bool
  | text s => s != ""
  | name _ => true
  | _ => false

/-- Whether the end of a document is to be seen. -/
def Doc.endsVisibly (d : Doc) : Bool := d.getLast?.any Piece.isVisible

@[simp] theorem Doc.endsVisibly_append_text (d : Doc) (text : String) :
    endsVisibly (d ++ ofText text) = (text != "") := by
  simp [endsVisibly, ofText, Piece.isVisible]

open Doc in
/-- A property of documents that trees have because it is kept when documents are put together. -/
structure Shape where
  /-- What may stand in a line. -/
  Inline : Doc → Prop
  /-- What may stand on lines of its own. -/
  Lines : Doc → Prop
  /-- What may stand between the lines with the outer braces of a statement. -/
  Inner : Doc → Prop
  /-- The leaves that the property allows. -/
  Allows : Leaf → Prop
  inline_nil : Inline []
  inline_append {c d : Doc} : Inline c → Inline d → Inline (c ++ d)
  inline_text {text : String} : IsOrdinary text → Inline (ofText text)
  inline_name (r : Reference) : Inline [.name r]
  inline_quoted (text : String) : Inline (ofText (Text.quoted text))
  inline_literal {l : Literal} : Allows (.literal l) → Inline (ofText l.text)
  inline_parens {d : Doc} : Inline d → Inline (parens d)
  /-- The body of a class that is written in a line. -/
  inline_body {d : Doc} :
    Lines d → Inline ([.text "() \x7b", .newline] ++ nest d ++ [.margin 0, .text "\x7d"])
  lines_nil : Lines []
  lines_append {c d : Doc} : Lines c → Lines d → Lines (c ++ d)
  lines_newline : Lines [.newline]
  lines_comment {c : Comment} : Allows (.comment c) → Lines c.doc
  lines_line {d : Doc} : Inline d → endsVisibly d = true → Lines (line d)
  lines_braces {heading inner : Doc} {opening : String} : Inline heading →
    opening ∈ ["\x7b", " \x7b"] → Inner inner →
    Lines (line (heading ++ ofText opening) ++ inner ++ line (ofText "\x7d"))
  inner_nil : Inner []
  inner_append {c d : Doc} : Inner c → Inner d → Inner (c ++ d)
  inner_body {d : Doc} : Lines d → Inner (nest d)
  inner_else : Inner (line (ofText "\x7d else \x7b"))
  inner_heading {word : String} {d : Doc} : word ∈ ["\x7d else if ", "\x7d catch "] → Inline d →
    Inner (line (ofText word ++ parens d ++ ofText " \x7b"))

namespace Shape

open Doc

variable (shape : Shape)

/-! ## Parts in a row -/

theorem inline_flatMap {α : Type} {xs : List α} {f : α → Doc} (h : ∀ x ∈ xs, shape.Inline (f x)) :
    shape.Inline (xs.flatMap f) :=
  flatMap_of shape.inline_nil shape.inline_append h

theorem lines_flatMap {α : Type} {xs : List α} {f : α → Doc} (h : ∀ x ∈ xs, shape.Lines (f x)) :
    shape.Lines (xs.flatMap f) :=
  flatMap_of shape.lines_nil shape.lines_append h

theorem inline_commaSeparated {ds : List Doc} (h : ∀ d ∈ ds, shape.Inline d) :
    shape.Inline (commaSeparated ds) :=
  intercalate_of shape.inline_nil shape.inline_append (shape.inline_text (by decide)) h

theorem lines_blankSeparated {ds : List Doc} (h : ∀ d ∈ ds, shape.Lines d) :
    shape.Lines (blankSeparated ds) :=
  intercalate_of shape.lines_nil shape.lines_append shape.lines_newline h

theorem inline_words {ws : List String} (h : ∀ w ∈ ws, IsOrdinary w) :
    shape.Inline (words ws) := by
  have hwords : words ws = ws.flatMap fun w => ofText (w ++ " ") := List.map_eq_flatMap
  rw [hwords]
  exact shape.inline_flatMap fun w hw => shape.inline_text ((h w hw).append (by decide))

/-- Lines between braces, behind a heading. -/
theorem lines_braced {heading body : Doc} (hheading : shape.Inline heading)
    (hbody : shape.Lines body) : shape.Lines (braced heading body) :=
  shape.lines_braces hheading List.mem_cons_self (shape.inner_body hbody)

/-- A line that ends in a semicolon. -/
theorem lines_terminated {d : Doc} (h : shape.Inline d) :
    shape.Lines (line (d ++ ofText ";")) :=
  shape.lines_line (shape.inline_append h (shape.inline_text (by decide))) (by simp)

/-! ## Types -/

theorem inline_cons_name (r : Reference) {d : Doc} (h : shape.Inline d) :
    shape.Inline (.name r :: d) :=
  shape.inline_append (shape.inline_name r) h

mutual
theorem inline_reference : ∀ r : Reference, shape.Inline r.doc
  | .wildcard as => shape.inline_cons_name _ (inline_arguments as)
  | .compiled _ as _ _ => shape.inline_cons_name _ (inline_arguments as)
  | .generated _ as _ _ => shape.inline_cons_name _ (inline_arguments as)

theorem inline_arguments : ∀ as : List Reference, shape.Inline (Reference.argumentsDoc as)
  | [] => shape.inline_nil
  | a :: as => by
    have hopen : shape.Inline (ofText "<") := shape.inline_text (by decide)
    have hclose : shape.Inline (ofText ">") := shape.inline_text (by decide)
    exact shape.inline_append (shape.inline_append
      (shape.inline_append hopen (inline_reference a)) (inline_further as)) hclose

theorem inline_further : ∀ as : List Reference, shape.Inline (Reference.furtherDoc as)
  | [] => shape.inline_nil
  | a :: as => by
    have hcomma : shape.Inline (ofText ", ") := shape.inline_text (by decide)
    exact shape.inline_append (shape.inline_append hcomma (inline_reference a)) (inline_further as)
end

theorem inline_brackets (t : JavaType) : shape.Inline t.bracketsDoc := by
  unfold JavaType.bracketsDoc
  split
  · exact shape.inline_text (by decide)
  · exact shape.inline_nil

theorem inline_type (t : JavaType) : shape.Inline t.doc := by
  refine shape.inline_append ?_ (shape.inline_brackets t)
  cases t.reference? with
  | none => exact shape.inline_text (isOrdinary_keyword t.kind)
  | some r => exact shape.inline_reference r

theorem inline_rawType (t : JavaType) : shape.Inline t.rawDoc := by
  refine shape.inline_append ?_ (shape.inline_brackets t)
  cases t.reference? with
  | none => exact shape.inline_text (isOrdinary_keyword t.kind)
  | some r => exact shape.inline_name r

/-! ## Annotations, declarations and values -/

theorem inline_annotation (a : Annotation) : shape.Inline a.doc := by
  have hat : shape.Inline (ofText "@") := shape.inline_text (by decide)
  refine shape.inline_append hat (shape.inline_cons_name a.type ?_)
  cases a.description with
  | none => exact shape.inline_nil
  | some text => exact shape.inline_parens (shape.inline_quoted text)

theorem lines_annotation (a : Annotation) : shape.Lines (line a.doc) := by
  refine shape.lines_line (shape.inline_annotation a) ?_
  cases hdescription : a.description with
  | none =>
    unfold Annotation.doc
    simp [hdescription, endsVisibly, Piece.isVisible]
  | some text =>
    have hdoc : a.doc
        = [.text "@", .name a.type, .text "(", .text (Text.quoted text)] ++ ofText ")" := by
      unfold Annotation.doc
      rw [hdescription]
      rfl
    rw [hdoc, endsVisibly_append_text]
    decide

theorem inline_declaration (d : Declaration) : shape.Inline d.doc := by
  have hspace : shape.Inline (ofText " ") := shape.inline_text (by decide)
  have hannotations :
      shape.Inline (d.annotations.flatMap fun a => a.doc ++ ofText " ") :=
    shape.inline_flatMap fun a _ => shape.inline_append (shape.inline_annotation a) hspace
  have hwords : shape.Inline (words d.modifiers.words) :=
    shape.inline_words (isOrdinary_modifiers _)
  have hname : IsOrdinary (" " ++ d.name) :=
    IsOrdinary.append (by decide) (isOrdinary_identifier d.identifier)
  exact shape.inline_append (shape.inline_append (shape.inline_append hannotations hwords)
    (shape.inline_type d.type)) (shape.inline_text hname)

theorem inline_value {v : Value} (h : ∀ leaf ∈ v.leaves, shape.Allows leaf) :
    shape.Inline v.doc := by
  cases v with
  | literal l => exact shape.inline_literal (h _ List.mem_cons_self)
  | string text => exact shape.inline_quoted text
  | null => exact shape.inline_text (by decide)
  | this t => exact shape.inline_text (by decide)
  | super t => exact shape.inline_text (by decide)
  | constant t name =>
    have hname : IsOrdinary ("." ++ name.text) :=
      IsOrdinary.append (by decide) (isOrdinary_identifier name)
    exact shape.inline_append (shape.inline_rawType t) (shape.inline_text hname)

/-! ## Headings -/

theorem inline_typeArguments (rs : List Reference) :
    shape.Inline (Layout.typeArguments rs) := by
  have hopen : shape.Inline (ofText "<") := shape.inline_text (by decide)
  have hclose : shape.Inline (ofText ">") := shape.inline_text (by decide)
  have hnames : ∀ d ∈ rs.map fun r => ([.name r] : Doc), shape.Inline d :=
    List.forall_mem_map.2 fun r _ => shape.inline_name r
  unfold Layout.typeArguments
  split
  · exact shape.inline_nil
  · exact shape.inline_append (shape.inline_append hopen (shape.inline_commaSeparated hnames)) hclose

theorem inline_created (r : Reference) (isDiamond : Bool) :
    shape.Inline (Layout.created r isDiamond) := by
  unfold Layout.created
  split
  · exact shape.inline_cons_name r (shape.inline_text (by decide))
  · exact shape.inline_reference r

theorem inline_clause {word : String} (hword : IsOrdinary (" " ++ word ++ " "))
    (rs : List Reference) : shape.Inline (Layout.clause word rs) := by
  have hdocs : ∀ d ∈ rs.map Reference.doc, shape.Inline d :=
    List.forall_mem_map.2 fun r _ => shape.inline_reference r
  unfold Layout.clause
  split
  · exact shape.inline_nil
  · exact shape.inline_append (shape.inline_text hword) (shape.inline_commaSeparated hdocs)

theorem inline_methodHead (h : MethodHeader) : shape.Inline (Layout.methodHead h) := by
  have hspace : shape.Inline (ofText " ") := shape.inline_text (by decide)
  have hwords : shape.Inline (words h.modifiers.words) :=
    shape.inline_words (isOrdinary_modifiers _)
  have hname : shape.Inline (ofText h.identifier.text) :=
    shape.inline_text (isOrdinary_identifier _)
  have hparameters : ∀ d ∈ h.parameters.map Declaration.doc, shape.Inline d :=
    List.forall_mem_map.2 fun p _ => shape.inline_declaration p
  have htype : shape.Inline
      (if h.isConstructor then [] else h.returnType.doc ++ ofText " ") := by
    split
    · exact shape.inline_nil
    · exact shape.inline_append (shape.inline_type h.returnType) hspace
  have happlied := shape.inline_parens (shape.inline_commaSeparated hparameters)
  have hthrows : shape.Inline (Layout.clause "throws" h.exceptions) :=
    shape.inline_clause (by decide) _
  exact shape.inline_append (shape.inline_append (shape.inline_append
    (shape.inline_append hwords htype) hname) happlied) hthrows

theorem inline_classHead (h : ClassHeader) : shape.Inline (Layout.classHead h) := by
  have hwords : shape.Inline (words h.modifiers.words) :=
    shape.inline_words (isOrdinary_modifiers _)
  have hname : IsOrdinary ("class " ++ h.identifier.text) :=
    IsOrdinary.append (by decide) (isOrdinary_identifier _)
  have hextends : shape.Inline (Layout.clause "extends" h.superclass.toList) :=
    shape.inline_clause (by decide) _
  have himplements : shape.Inline (Layout.clause "implements" h.interfaces) :=
    shape.inline_clause (by decide) _
  exact shape.inline_append (shape.inline_append
    (shape.inline_append hwords (shape.inline_text hname)) hextends) himplements

theorem lines_preamble {comments : List Comment} (annotations : List Annotation)
    (h : ∀ leaf ∈ comments.map Leaf.comment, shape.Allows leaf) :
    shape.Lines (Layout.preamble comments annotations) := by
  have hcomments : shape.Lines (comments.flatMap Comment.doc) :=
    shape.lines_flatMap fun c hc => shape.lines_comment (h _ (List.mem_map_of_mem hc))
  exact shape.lines_append hcomments (shape.lines_flatMap fun a _ => shape.lines_annotation a)

/-- A method, if its body has the shape. -/
theorem lines_layoutMethod {h : MethodHeader} {body : Doc}
    (hcomments : ∀ leaf ∈ h.comments.map Leaf.comment, shape.Allows leaf)
    (hbody : shape.Lines body) : shape.Lines (Layout.method h body) := by
  refine shape.lines_append (shape.lines_preamble h.annotations hcomments) ?_
  split
  · exact shape.lines_terminated (shape.inline_methodHead h)
  · have hspace : shape.Inline (ofText " ") := shape.inline_text (by decide)
    exact shape.lines_braced (shape.inline_append (shape.inline_methodHead h) hspace) hbody

end Shape

end JavaSyntax
