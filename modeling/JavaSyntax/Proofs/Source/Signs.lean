import JavaSyntax.Proofs.Construction.Rules
import JavaSyntax.Proofs.Shapes.Parts
import JavaSyntax.Proofs.Source.Unambiguity

/-!
# Signs behind casts

A class in brackets before a sign is no cast in source text but the left side of an addition or a
subtraction, so the operand of a cast must not begin with a sign. Whether it does is decided at its
beginning, which may lie in the receiver of a receiver. Only literals have signs, and since numbers
have no members, no receiver is one. So an operand begins with a sign exactly if it is a literal
with a sign.
-/

set_option autoImplicit false

namespace JavaSyntax

/-! ## Beginnings of texts -/

/-- Whether a text begins with a sign. -/
def IsSigned (cs : List Char) : Prop := cs.head? = some '+' ∨ cs.head? = some '-'

instance (cs : List Char) : Decidable (IsSigned cs) := inferInstanceAs (Decidable (_ ∨ _))

theorem not_isSigned_nil : ¬ IsSigned [] := by decide

theorem not_isSigned_cons {c : Char} {cs : List Char} (h : c ∉ ['+', '-']) :
    ¬ IsSigned (c :: cs) := by
  simpa [IsSigned] using h

/-- A text begins as its first part that is not empty. -/
theorem not_isSigned_append {cs ds : List Char} (hc : ¬ IsSigned cs) (hd : ¬ IsSigned ds) :
    ¬ IsSigned (cs ++ ds) := by
  cases cs with
  | nil => exact hd
  | cons c cs => simpa [IsSigned] using hc

theorem not_isSigned_of_isPart {cs : List Char}
    (h : ∀ c ∈ cs, c = '.' ∨ Identifier.isPart c = true) : ¬ IsSigned cs := by
  rintro (hplus | hminus)
  · exact absurd (h _ (List.mem_of_head? hplus)) (by decide)
  · exact absurd (h _ (List.mem_of_head? hminus)) (by decide)

theorem not_isSigned_identifier (identifier : Identifier) : ¬ IsSigned identifier.text.toList :=
  not_isSigned_of_isPart fun _ hc => .inr (Identifier.isPart_of_mem hc)

theorem ImportTable.not_isSigned_nameOf (t : ImportTable) (r : Reference) :
    ¬ IsSigned (t.nameOf r).toList := by
  rcases t.nameOf_eq_dotted r with hname | ⟨parts, -, hname⟩
  · rw [hname]
    decide
  · rw [hname]
    exact not_isSigned_of_isPart fun _ hc => eq_dot_or_isPart_of_mem_dotted hc

/-! ## Beginnings of documents -/

namespace Page

@[simp] theorem chars_text (page : Page) (s : String) (d : Doc) :
    page.chars (.text s :: d) = s.toList ++ page.chars d := by
  simp [chars, Doc.write_cons, Piece.write]

@[simp] theorem chars_name (page : Page) (r : Reference) (d : Doc) :
    page.chars (.name r :: d) = (page.nameOf r).toList ++ page.chars d := by
  simp [chars, Doc.write_cons, Piece.write]

end Page

theorem not_isSigned_words (page : Page) {ws : List String} (h : ∀ w ∈ ws, ¬ IsSigned w.toList) :
    ¬ IsSigned (page.chars (Doc.words ws)) := by
  induction ws with
  | nil => simpa [Doc.words] using not_isSigned_nil
  | cons w ws ih =>
    obtain ⟨hw, hws⟩ := List.forall_mem_cons.1 h
    rw [Doc.words, List.map_cons, page.chars_text, String.toList_append]
    exact not_isSigned_append (not_isSigned_append hw (by decide)) (ih hws)

theorem not_isSigned_modifiers (m : Modifiers) : ∀ w ∈ m.words, ¬ IsSigned w.toList := by
  obtain ⟨access, isAbstract, isStatic, isFinal⟩ := m
  cases access <;> cases isAbstract <;> cases isStatic <;> cases isFinal <;> decide

theorem not_isSigned_brackets (page : Page) (t : JavaType) :
    ¬ IsSigned (page.chars t.bracketsDoc) := by
  unfold JavaType.bracketsDoc
  split
  · simpa using not_isSigned_cons (by decide)
  · simpa using not_isSigned_nil

theorem not_isSigned_keyword (kind : Kind) : ¬ IsSigned kind.keyword.toList := by
  cases kind with
  | void => decide
  | primitive p => cases p <;> decide
  | object => decide

section Documents

variable {page : Page} (hnames : ∀ r, ¬ IsSigned (page.nameOf r).toList)
include hnames

theorem not_isSigned_reference (r : Reference) : ¬ IsSigned (page.chars r.doc) := by
  have harguments : ∀ as, ¬ IsSigned (page.chars (Reference.argumentsDoc as)) := by
    intro as
    cases as with
    | nil => simpa [Reference.argumentsDoc] using not_isSigned_nil
    | cons a as => simpa [Reference.argumentsDoc] using not_isSigned_cons (by decide)
  cases r <;> simpa [Reference.doc] using not_isSigned_append (hnames _) (harguments _)

theorem not_isSigned_type (t : JavaType) : ¬ IsSigned (page.chars t.doc) := by
  rw [JavaType.doc, page.chars_append]
  refine not_isSigned_append ?_ (not_isSigned_brackets page t)
  cases t.reference? with
  | none =>
    rw [Option.elim_none, page.chars_ofText]
    exact not_isSigned_keyword t.kind
  | some r => exact not_isSigned_reference hnames r

theorem not_isSigned_rawType (t : JavaType) : ¬ IsSigned (page.chars t.rawDoc) := by
  rw [JavaType.rawDoc, page.chars_append]
  refine not_isSigned_append ?_ (not_isSigned_brackets page t)
  cases t.reference? with
  | none =>
    rw [Option.elim_none, page.chars_ofText]
    exact not_isSigned_keyword t.kind
  | some r => simpa using hnames r

theorem not_isSigned_declaration (d : Declaration) : ¬ IsSigned (page.chars d.doc) := by
  have hannotations :
      ¬ IsSigned (page.chars (d.annotations.flatMap fun a => a.doc ++ Doc.ofText " ")) := by
    refine Doc.flatMap_of (P := fun d => ¬ IsSigned (page.chars d)) ?_ ?_ ?_
    · simpa using not_isSigned_nil
    · intro c d hc hd
      rw [page.chars_append]
      exact not_isSigned_append hc hd
    · intro a _
      simpa [ Annotation.doc] using not_isSigned_cons (by decide)
  have hmodifiers := not_isSigned_words page (not_isSigned_modifiers d.modifiers)
  have hname : ¬ IsSigned (" " ++ d.name).toList := by
    simpa using not_isSigned_cons (by decide)
  rw [Declaration.doc, page.chars_append, page.chars_append, page.chars_append, page.chars_ofText]
  exact not_isSigned_append
    (not_isSigned_append (not_isSigned_append hannotations hmodifiers) (not_isSigned_type hnames _))
    hname

theorem not_isSigned_value {v : Value} (h : ∀ l, v ≠ .literal l) :
    ¬ IsSigned (page.chars v.doc) := by
  cases v with
  | literal l => exact absurd rfl (h l)
  | string text =>
    rw [Value.doc, page.chars_ofText, Text.toList_quoted]
    exact not_isSigned_cons (by decide)
  | null =>
    rw [Value.doc, page.chars_ofText]
    decide
  | this | super =>
    rw [Value.doc, page.chars_ofText]
    decide
  | constant type name =>
    have hname : ¬ IsSigned ("." ++ name.text).toList := by
      simpa using not_isSigned_cons (by decide)
    rw [Value.doc, page.chars_append, page.chars_ofText]
    exact not_isSigned_append (not_isSigned_rawType hnames type) hname

end Documents

/-- Type arguments stand in angle brackets, if there are any to be written. -/
theorem not_isSigned_typeArguments (page : Page) (isImplicit : Bool) (gs : List Reference) :
    ¬ IsSigned (page.chars (if isImplicit then [] else Layout.typeArguments gs)) := by
  split
  · simpa using not_isSigned_nil
  · unfold Layout.typeArguments
    split
    · simpa using not_isSigned_nil
    · simpa using not_isSigned_cons (by decide)

theorem not_isSigned_parens (page : Page) (d : Doc) : ¬ IsSigned (page.chars (Doc.parens d)) := by
  simpa using not_isSigned_cons (by decide)

theorem not_isSigned_new (page : Page) (d : Doc) :
    ¬ IsSigned (page.chars (Doc.ofText "new " ++ d)) := by
  rw [page.chars_append, page.chars_ofText]
  exact not_isSigned_cons (by decide)

/-! ## Receivers -/

/-- What stands before a dot is no literal, since numbers have no members. -/
theorem ne_literal_of_isPrimitive {e : Expr} (h : e.type.isPrimitive = false) (l : Literal) :
    e ≠ .value (.literal l) := by
  rintro rfl
  cases h

/-- Whether the expression before a dot, if there is one, can be obtained and has members. -/
def Receiver.IsProper (receiver : Receiver) : Prop :=
  ∀ e ∈ receiver.object?, Obtainable (.expression e) ∧ e.type.isPrimitive = false

theorem Obtainable.isProper_of_use {v : Variable} {receiver : Receiver}
    (h : Obtainable (.var (.use v receiver))) : receiver.IsProper := by
  intro e he
  have hchild : Node.expression e ∈ receiver.children :=
    List.mem_map_of_mem (Option.mem_toList.2 he)
  refine ⟨h.part hchild, ?_⟩
  have hlawful : (Node.var (.use v receiver)).Lawful true := h.everywhere Made.lawful .self
  cases hlawful with
  | var hlawful => exact (hlawful.receiver.object e he).2

theorem Obtainable.isProper_of_call {name : Identifier} {receiver : Receiver}
    {gs : List Reference} {as : List Expr} {type : JavaType}
    (h : Obtainable (.expression (.call name receiver gs as type))) : receiver.IsProper := by
  intro e he
  have hchild : Node.expression e ∈ receiver.children ++ as.map .expression :=
    List.mem_append_left _ (List.mem_map_of_mem (Option.mem_toList.2 he))
  refine ⟨h.part hchild, ?_⟩
  have hlawful : (Node.expression (.call name receiver gs as type)).Lawful true :=
    h.everywhere Made.lawful .self
  cases hlawful with
  | expression hlawful =>
    cases hlawful with
    | call hdraft hlawful =>
      cases hdraft
      exact (hlawful.receiver.object e he).2

/-! ## Operands -/

/-- What does not bind loosely stands without brackets. -/
theorem Expr.operand_eq_self {e : Expr} (h : e.bindsLoosely = false) (d : Doc) :
    e.operand d = d := by
  simp [Expr.operand, h]

section Operands

variable {page : Page} (hnames : ∀ r, ¬ IsSigned (page.nameOf r).toList)
include hnames

-- A call or a use begins as what stands before its dot does, so this is where the recursion goes. All
-- other forms have beginnings of their own.
mutual
theorem not_isSigned_operand : ∀ {e : Expr}, Obtainable (.expression e) →
    (∀ l, e ≠ .value (.literal l)) → ¬ IsSigned (page.chars (e.operand e.doc))
  | .value v, _, hl => by
    have hv : ∀ l, v ≠ .literal l := fun l h => hl l (congrArg Expr.value h)
    exact not_isSigned_value hnames hv
  | .var v, h, _ => not_isSigned_variable (h.part (List.mem_singleton_self _))
  | .ternary .., _, _ | .assignment .., _, _ | .instanceOf .., _, _ | .comparison .., _, _ =>
    not_isSigned_parens page _
  | .call name receiver gs as _, h, _ => by
    have hreceiver := not_isSigned_receiver h.isProper_of_call
    have hgenerics := not_isSigned_typeArguments page receiver.isImplicit gs
    have hname := not_isSigned_identifier name
    have harguments := not_isSigned_parens page (Doc.commaSeparated (exprDocs as))
    rw [Expr.operand_eq_self rfl, Expr.doc, page.chars_append, page.chars_append,
      page.chars_append, page.chars_ofText]
    exact not_isSigned_append
      (not_isSigned_append (not_isSigned_append hreceiver hgenerics) hname) harguments
  | .create type as isDiamond, _, _ => by
    rw [Expr.operand_eq_self rfl, Expr.doc, List.append_assoc]
    exact not_isSigned_new page _
  | .cast type e, _, _ => by
    rw [Expr.operand_eq_self rfl, Expr.doc]
    exact not_isSigned_parens page _
  | .anonymousClass type ss ms, _, _ => by
    rw [Expr.operand_eq_self rfl, Expr.doc]
    simp only [List.append_assoc]
    exact not_isSigned_new page _
  | .delegation target type as, _, _ => by
    have hword : ¬ IsSigned target.keyword.toList := by cases target <;> decide
    rw [Expr.operand_eq_self rfl, Expr.doc, page.chars_append, page.chars_ofText]
    exact not_isSigned_append hword (not_isSigned_parens page _)

theorem not_isSigned_receiver : ∀ {receiver : Receiver}, receiver.IsProper →
    ¬ IsSigned (page.chars receiver.doc)
  | .implicit, _ => by simpa [Receiver.doc] using not_isSigned_nil
  | .object e, h => by
    obtain ⟨hobtainable, hmembers⟩ := h e rfl
    rw [Receiver.doc, page.chars_append, page.chars_ofText]
    exact not_isSigned_append
      (not_isSigned_operand hobtainable (ne_literal_of_isPrimitive hmembers)) (by decide)
  | .owner r, _ => by
    simpa [Receiver.doc] using not_isSigned_append (hnames r) (by decide)

theorem not_isSigned_variable : ∀ {v : VariableExpr}, Obtainable (.var v) →
    ¬ IsSigned (page.chars v.doc)
  | .declaration d, _ => not_isSigned_declaration hnames d
  | .use v receiver, h => by
    rw [VariableExpr.doc, page.chars_append, page.chars_ofText]
    exact not_isSigned_append (not_isSigned_receiver h.isProper_of_use)
      (not_isSigned_identifier v.identifier)
end

end Operands

/-- The operand of a cast, or any other, begins with a sign only if it is a literal with a sign. -/
theorem isSigned_operand_iff {page : Page} (hnames : ∀ r, ¬ IsSigned (page.nameOf r).toList)
    {e : Expr} (h : Obtainable (.expression e)) :
    IsSigned (page.chars (e.operand e.doc)) ↔
      ∃ l, e = .value (.literal l) ∧ IsSigned l.text.toList := by
  by_cases hliteral : ∃ l, e = .value (.literal l)
  · obtain ⟨l, rfl⟩ := hliteral
    rw [Expr.operand_eq_self rfl, Expr.doc, Value.doc, page.chars_ofText]
    simp
  · have hne : ∀ l, e ≠ .value (.literal l) := fun l hl => hliteral ⟨l, hl⟩
    refine iff_of_false (not_isSigned_operand hnames h hne) ?_
    rintro ⟨l, hl, -⟩
    exact hne l hl

/-! ## Casts -/

namespace Writer

/-- Behind the type of a cast, its operand begins with a sign exactly if it is a literal with a
sign; and if the type has objects, every literal is accepted as the operand. -/
theorem putExpr_cast (w : Writer) {type : JavaType} {operand : Expr}
    (h : Obtainable (.expression (.cast type operand))) :
    let after := w.putExpr (.cast type operand)
    let page : Page := ⟨w.options.indentWidth, w.indentLevel, after.imports.nameOf⟩
    let text := page.chars (operand.operand operand.doc)
    after.buffer.toList
        = w.buffer.toList ++ "((".toList ++ page.chars type.doc ++ ") ".toList ++ text ++ [')'] ∧
      (IsSigned text ↔ ∃ l, operand = .value (.literal l) ∧ IsSigned l.text.toList) ∧
      (type.isReference = true → ∀ l : Literal,
        Expr.mkCast type (.value (.literal l)) = .ok (.cast type (.value (.literal l)))) := by
  intro after page text
  have hoperand : Obtainable (.expression operand) := h.part (List.mem_singleton_self _)
  have hbuffer : after.buffer.toList
      = w.buffer.toList ++ page.chars (Expr.cast type operand).doc := by
    rw [Page.chars, ← String.toList_append]
    rfl
  have hnames : ∀ r, ¬ IsSigned (page.nameOf r).toList := after.imports.not_isSigned_nameOf
  refine ⟨?_, isSigned_operand_iff hnames hoperand, fun htype l => ?_⟩
  · rw [hbuffer]
    simp [Expr.doc, text]
  · obtain ⟨hvoid, hprimitive⟩ := JavaType.isReference_iff.1 htype
    exact Expr.mkCast_eq_ok_iff.2 ⟨hvoid, rfl, fun _ hp => absurd hp (by simp [hprimitive]), rfl⟩

/-- The operand is a call on a text, and the sign in the text stands behind a quotation mark. -/
theorem putExpr_cast_trimmed :
    let w : Writer := ofOptions {}
    let trimmed : Expr := .call { text := "trim" } (.object (.value (.string "-1"))) [] [] .string
    let after := w.putExpr (.cast .object trimmed)
    Obtainable (.expression (.cast .object trimmed)) ∧
      after.buffer = "((Object) \"-1\".trim())" ∧
      ¬ IsSigned (Page.chars ⟨2, 0, after.imports.nameOf⟩ (trimmed.operand trimmed.doc)) := by
  intro w trimmed after
  have htext : Obtainable (.expression (.value (.string "-1"))) :=
    .make (.value (.string "-1")) (by simp)
  have hbuild : Draft.build (.call
      { name := some "trim", object := some (.value (.string "-1")), returnType := some .string })
      = .ok (.expression trimmed) := rfl
  have htrimmed : Obtainable (.expression trimmed) :=
    .make (.build hbuild) (by simpa [Draft.parts, presentExprs] using htext)
  have hmake : Expr.mkCast .object trimmed = .ok (.cast .object trimmed) := rfl
  have hcast : Obtainable (.expression (.cast .object trimmed)) :=
    .make (.cast hmake) (by simpa using htrimmed)
  have hbuffer : after.buffer = "((Object) \"-1\".trim())" := by decide +kernel
  obtain ⟨-, hsigned, -⟩ := putExpr_cast w hcast
  refine ⟨hcast, hbuffer, hsigned.not.2 ?_⟩
  rintro ⟨l, hl, -⟩
  simp [trimmed] at hl

/-- A negative number is accepted where an object of the class that boxes it is wanted, and is
written with its sign right behind the brackets of the class. -/
theorem putExpr_cast_negative :
    ∃ l e, Literal.ofString (.ofPrimitive .int) "-1" = .ok l ∧
      Expr.mkCast (.boxed .int) (.value (.literal l)) = .ok e ∧
      ((ofOptions {}).putExpr e).buffer = "((Integer) " ++ l.text ++ ")" ∧
      IsSigned l.text.toList := by
  let l : Literal := ⟨.int, "-1", by decide⟩
  exact ⟨l, .cast (.boxed .int) (.value (.literal l)), rfl, rfl, by decide +kernel, by decide⟩

end Writer

end JavaSyntax
