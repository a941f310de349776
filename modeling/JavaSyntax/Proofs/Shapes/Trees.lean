import JavaSyntax.Proofs.Shapes.Parts

/-!
# Every tree has every shape

The proof follows the tree: an expression stands in a line, a statement, method or class on lines of
its own, and a branch or handler between the outer braces of its statement. A tree has a shape if
the shape allows its comments and literals, the only parts whose text is their own.
-/

set_option autoImplicit false

namespace JavaSyntax

namespace Shape

open Doc

variable (shape : Shape)

/-! ## Pieces of trees -/

theorem inline_operand (e : Expr) {d : Doc} (h : shape.Inline d) : shape.Inline (e.operand d) := by
  unfold Expr.operand
  split
  · exact shape.inline_parens h
  · exact h

/-- What a call or creation is applied to. -/
theorem inline_applied {ds : List Doc} (h : ∀ d ∈ ds, shape.Inline d) :
    shape.Inline (parens (commaSeparated ds)) :=
  shape.inline_parens (shape.inline_commaSeparated h)

/-- The members of a class, the statements first unless there are none. -/
theorem lines_members {statements : Doc} {others : List Doc} (isAbsent : Bool)
    (hs : shape.Lines statements) (ho : ∀ d ∈ others, shape.Lines d) :
    shape.Lines (blankSeparated ((if isAbsent then [] else [statements]) ++ others)) := by
  apply shape.lines_blankSeparated
  rw [List.forall_mem_append]
  refine ⟨?_, ho⟩
  split
  · simp
  · exact List.forall_mem_singleton.2 hs

/-! ## Trees -/

mutual
theorem inline_expr : ∀ e : Expr, (∀ leaf ∈ e.leaves, shape.Allows leaf) → shape.Inline e.doc
  | .value v, h => shape.inline_value h
  | .var v, h => inline_variable v h
  | .ternary c t f, h => by
    simp only [Expr.leaves, List.forall_mem_append] at h
    obtain ⟨⟨hc, ht⟩, hf⟩ := h
    have hthen : shape.Inline (ofText " ? ") := shape.inline_text (by decide)
    have helse : shape.Inline (ofText " : ") := shape.inline_text (by decide)
    have hcondition := shape.inline_operand c (inline_expr c hc)
    have htrue := shape.inline_operand t (inline_expr t ht)
    have hfalse := shape.inline_operand f (inline_expr f hf)
    exact shape.inline_append (shape.inline_append (shape.inline_append
      (shape.inline_append hcondition hthen) htrue) helse) hfalse
  | .assignment target source, h => by
    simp only [Expr.leaves, List.forall_mem_append] at h
    have hsign : shape.Inline (ofText " = ") := shape.inline_text (by decide)
    exact shape.inline_append (shape.inline_append (inline_variable target h.1) hsign)
      (inline_expr source h.2)
  | .call name receiver gs as _, h => by
    simp only [Expr.leaves, List.forall_mem_append] at h
    have hgenerics :
        shape.Inline (if receiver.isImplicit then [] else Layout.typeArguments gs) := by
      split
      · exact shape.inline_nil
      · exact shape.inline_typeArguments gs
    have hname : shape.Inline (ofText name.text) := shape.inline_text (isOrdinary_identifier name)
    exact shape.inline_append (shape.inline_append
      (shape.inline_append (inline_receiver receiver h.1) hgenerics) hname)
      (shape.inline_applied (inline_exprs as h.2))
  | .create type as isDiamond, h => by
    have hnew : shape.Inline (ofText "new ") := shape.inline_text (by decide)
    exact shape.inline_append (shape.inline_append hnew (shape.inline_created type isDiamond))
      (shape.inline_applied (inline_exprs as h))
  | .cast type e, h => by
    have hspace : shape.Inline (ofText " ") := shape.inline_text (by decide)
    have htype := shape.inline_parens (shape.inline_type type)
    have hoperand := shape.inline_operand e (inline_expr e h)
    exact shape.inline_parens (shape.inline_append (shape.inline_append htype hspace) hoperand)
  | .instanceOf e type, h => by
    have hword : shape.Inline (ofText " instanceof ") := shape.inline_text (by decide)
    have hoperand := shape.inline_operand e (inline_expr e h)
    exact shape.inline_append (shape.inline_append hoperand hword) (shape.inline_rawType type)
  | .comparison operator l r, h => by
    simp only [Expr.leaves, List.forall_mem_append] at h
    have hsymbol : shape.Inline (ofText (" " ++ operator.symbol ++ " ")) := by
      cases operator <;> exact shape.inline_text (by decide)
    have hleft := shape.inline_operand l (inline_expr l h.1)
    have hright := shape.inline_operand r (inline_expr r h.2)
    exact shape.inline_append (shape.inline_append hleft hsymbol) hright
  | .anonymousClass type ss ms, h => by
    simp only [Expr.leaves, List.forall_mem_append] at h
    have hnew : shape.Inline (ofText "new ") := shape.inline_text (by decide)
    have hhead := shape.inline_append hnew (shape.inline_reference type)
    have hmembers :=
      shape.lines_members ss.isEmpty (lines_statements ss h.1) (lines_methods ms h.2)
    have hbody := shape.inline_append hhead (shape.inline_body hmembers)
    simpa only [Expr.doc, List.append_assoc] using hbody
  | .delegation target _ as, h => by
    have hword : shape.Inline (ofText target.keyword) := by
      cases target <;> exact shape.inline_text (by decide)
    exact shape.inline_append hword (shape.inline_applied (inline_exprs as h))

theorem inline_exprs : ∀ es : List Expr, (∀ leaf ∈ exprsLeaves es, shape.Allows leaf) →
    ∀ d ∈ exprDocs es, shape.Inline d
  | [], _ => by simp [exprDocs]
  | e :: es, h => by
    simp only [exprsLeaves, List.forall_mem_append] at h
    exact List.forall_mem_cons.2 ⟨inline_expr e h.1, inline_exprs es h.2⟩

theorem inline_receiver : ∀ receiver : Receiver,
    (∀ leaf ∈ receiver.leaves, shape.Allows leaf) → shape.Inline receiver.doc
  | .implicit, _ => shape.inline_nil
  | .object e, h => by
    have hdot : shape.Inline (ofText ".") := shape.inline_text (by decide)
    exact shape.inline_append (shape.inline_operand e (inline_expr e h)) hdot
  | .owner r, _ => shape.inline_cons_name r (shape.inline_text (by decide))

theorem inline_variable : ∀ v : VariableExpr,
    (∀ leaf ∈ v.leaves, shape.Allows leaf) → shape.Inline v.doc
  | .declaration d, _ => shape.inline_declaration d
  | .use v receiver, h =>
    shape.inline_append (inline_receiver receiver h)
      (shape.inline_text (isOrdinary_identifier v.identifier))

theorem lines_statement : ∀ s : Statement,
    (∀ leaf ∈ s.leaves, shape.Allows leaf) → shape.Lines s.doc
  | .expression e, h => shape.lines_terminated (inline_expr e h)
  | .block isStatic body, h => by
    have hhead : shape.Inline (if isStatic then ofText "static " else []) := by
      split
      · exact shape.inline_text (by decide)
      · exact shape.inline_nil
    exact shape.lines_braced hhead (lines_statements body h)
  | .conditional ⟨c, body⟩ others otherwise, h => by
    simp only [Statement.leaves, List.forall_mem_append] at h
    obtain ⟨⟨⟨hc, hbody⟩, hothers⟩, hotherwise⟩ := h
    have hif : shape.Inline (ofText "if ") := shape.inline_text (by decide)
    have hhead := shape.inline_append hif (shape.inline_parens (inline_expr c hc))
    have hfirst := shape.inner_body (lines_statements body hbody)
    have helse : shape.Inner
        (if otherwise.isEmpty then [] else
          line (ofText "\x7d else \x7b") ++ nest (statementsDoc otherwise)) := by
      split
      · exact shape.inner_nil
      · have hlast := shape.inner_body (lines_statements otherwise hotherwise)
        exact shape.inner_append shape.inner_else hlast
    have hinner := shape.inner_append (shape.inner_append hfirst (inner_branches others hothers))
      helse
    have hlines := shape.lines_braces hhead (List.mem_cons_of_mem _ List.mem_cons_self) hinner
    simpa only [Statement.doc, List.append_assoc] using hlines
  | .forEach item collection body, h => by
    simp only [Statement.leaves, List.forall_mem_append] at h
    have hfor : shape.Inline (ofText "for ") := shape.inline_text (by decide)
    have hcolon : shape.Inline (ofText " : ") := shape.inline_text (by decide)
    have hspace : shape.Inline (ofText " ") := shape.inline_text (by decide)
    have hrange := shape.inline_append
      (shape.inline_append (shape.inline_declaration item) hcolon) (inline_expr collection h.1)
    have hhead := shape.inline_append
      (shape.inline_append hfor (shape.inline_parens hrange)) hspace
    exact shape.lines_braced hhead (lines_statements body h.2)
  | .whileLoop c body, h => by
    simp only [Statement.leaves, List.forall_mem_append] at h
    have hwhile : shape.Inline (ofText "while ") := shape.inline_text (by decide)
    have hspace : shape.Inline (ofText " ") := shape.inline_text (by decide)
    have hhead := shape.inline_append
      (shape.inline_append hwhile (shape.inline_parens (inline_expr c h.1))) hspace
    exact shape.lines_braced hhead (lines_statements body h.2)
  | .tryCatch resource body handler, h => by
    simp only [Statement.leaves, List.forall_mem_append] at h
    obtain ⟨⟨hresource, hbody⟩, hhandler⟩ := h
    have htry : shape.Inline (ofText "try ") := shape.inline_text (by decide)
    have hhead := shape.inline_append htry (inline_resource resource hresource)
    have hinner := shape.inner_append (shape.inner_body (lines_statements body hbody))
      (inner_handler handler hhandler)
    have hlines := shape.lines_braces hhead List.mem_cons_self hinner
    simpa only [Statement.doc, List.append_assoc] using hlines
  | .comment c, h => shape.lines_comment (h _ List.mem_cons_self)
  | .emptyLine, _ => shape.lines_newline

theorem lines_statements : ∀ ss : List Statement,
    (∀ leaf ∈ statementsLeaves ss, shape.Allows leaf) → shape.Lines (statementsDoc ss)
  | [], _ => shape.lines_nil
  | s :: ss, h => by
    simp only [statementsLeaves, List.forall_mem_append] at h
    exact shape.lines_append (lines_statement s h.1) (lines_statements ss h.2)

theorem inner_branches : ∀ bs : List Branch,
    (∀ leaf ∈ branchesLeaves bs, shape.Allows leaf) → shape.Inner (branchesDoc bs)
  | [], _ => shape.inner_nil
  | ⟨c, body⟩ :: rest, h => by
    simp only [branchesLeaves, List.forall_mem_append] at h
    obtain ⟨⟨hc, hbody⟩, hrest⟩ := h
    have hhead := shape.inner_heading List.mem_cons_self (inline_expr c hc)
    have hfirst := shape.inner_body (lines_statements body hbody)
    exact shape.inner_append (shape.inner_append hhead hfirst) (inner_branches rest hrest)

theorem inline_resource : ∀ resource : Resource,
    (∀ leaf ∈ resource.leaves, shape.Allows leaf) → shape.Inline resource.doc
  | .absent, _ => shape.inline_nil
  | .binding d source, h => by
    have hsign : shape.Inline (ofText " = ") := shape.inline_text (by decide)
    have hspace : shape.Inline (ofText " ") := shape.inline_text (by decide)
    have hbinding := shape.inline_append
      (shape.inline_append (shape.inline_declaration d) hsign) (inline_expr source h)
    exact shape.inline_append (shape.inline_parens hbinding) hspace

theorem inner_handler : ∀ handler : Handler,
    (∀ leaf ∈ handler.leaves, shape.Allows leaf) → shape.Inner handler.doc
  | .omitted, _ => shape.inner_nil
  | .sample v body, h => by
    simp only [Handler.leaves, List.forall_mem_append] at h
    have hhead := shape.inner_heading (List.mem_cons_of_mem _ List.mem_cons_self)
      (inline_variable v h.1)
    exact shape.inner_append hhead (shape.inner_body (lines_statements body h.2))
  | .executable d body, h => by
    have hhead := shape.inner_heading (List.mem_cons_of_mem _ List.mem_cons_self)
      (shape.inline_declaration d)
    exact shape.inner_append hhead (shape.inner_body (lines_statements body h))

theorem lines_method : ∀ m : Method,
    (∀ leaf ∈ m.leaves, shape.Allows leaf) → shape.Lines m.doc
  | ⟨header, body, none⟩, h => by
    simp only [Method.leaves, List.forall_mem_append] at h
    exact shape.lines_layoutMethod h.1 (lines_statements body h.2)
  | ⟨header, body, some e⟩, h => by
    simp only [Method.leaves, List.forall_mem_append] at h
    obtain ⟨⟨hcomments, hbody⟩, he⟩ := h
    have hreturn : shape.Inline (ofText "return ") := shape.inline_text (by decide)
    have hresult := shape.lines_terminated (shape.inline_append hreturn (inline_expr e he))
    exact shape.lines_layoutMethod hcomments
      (shape.lines_append (lines_statements body hbody) hresult)

theorem lines_methods : ∀ ms : List Method,
    (∀ leaf ∈ methodsLeaves ms, shape.Allows leaf) → ∀ d ∈ methodDocs ms, shape.Lines d
  | [], _ => by simp [methodDocs]
  | m :: ms, h => by
    simp only [methodsLeaves, List.forall_mem_append] at h
    exact List.forall_mem_cons.2 ⟨lines_method m h.1, lines_methods ms h.2⟩
end

mutual
theorem lines_class : ∀ c : ClassDefinition,
    (∀ leaf ∈ c.leaves, shape.Allows leaf) → shape.Lines c.doc
  | ⟨header, ss, ms, nested⟩, h => by
    simp only [ClassDefinition.leaves, List.forall_mem_append] at h
    obtain ⟨⟨⟨hcomments, hstatements⟩, hmethods⟩, hnested⟩ := h
    have hspace : shape.Inline (ofText " ") := shape.inline_text (by decide)
    have hothers : ∀ d ∈ methodDocs ms ++ classDocs nested, shape.Lines d :=
      List.forall_mem_append.2 ⟨shape.lines_methods ms hmethods, lines_classes nested hnested⟩
    have hbody := shape.lines_members ss.isEmpty (shape.lines_statements ss hstatements) hothers
    rw [← List.append_assoc] at hbody
    exact shape.lines_append (shape.lines_preamble header.annotations hcomments)
      (shape.lines_braced (shape.inline_append (shape.inline_classHead header) hspace) hbody)

theorem lines_classes : ∀ cs : List ClassDefinition,
    (∀ leaf ∈ classesLeaves cs, shape.Allows leaf) → ∀ d ∈ classDocs cs, shape.Lines d
  | [], _ => by simp [classDocs]
  | c :: cs, h => by
    simp only [classesLeaves, List.forall_mem_append] at h
    exact List.forall_mem_cons.2 ⟨lines_class c h.1, lines_classes cs h.2⟩
end

end Shape

end JavaSyntax
