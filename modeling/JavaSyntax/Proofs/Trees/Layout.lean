import JavaSyntax.Proofs.Trees.Agreement

/-!
# Equal trees are laid out alike

The induction on two equal trees, form by form: if the references that they mention are imported
alike, their documents agree.
-/

set_option autoImplicit false

namespace JavaSyntax

namespace Doc

mutual
/-- Equal expressions agree. -/
theorem agrees_expr : ∀ e e' : Expr, e.same e' = true →
    WhenImportedAlike e.mentions e'.mentions (Agrees e.doc e'.doc)
  | .value v, e', h => by
    cases e' with
    | value w => exact agrees_value (by simpa only [Expr.same] using h)
    | _ => simp [Expr.same] at h
  | .var v, e', h => by
    cases e' with
    | var w => exact agrees_variable v w (by simpa only [Expr.same] using h)
    | _ => simp [Expr.same] at h
  | .ternary c t f, e', h => by
    cases e' with
    | ternary c' t' f' =>
      simp only [Expr.same, Bool.and_eq_true] at h
      obtain ⟨⟨hc, ht⟩, hf⟩ := h
      refine (((agrees_expr c c' hc).append (agrees_expr t t' ht)).append
        (agrees_expr f f' hf)).imp fun ⟨⟨hcond, htrue⟩, hfalse⟩ => ?_
      exact ((((hcond.operand hc).append (.refl _)).append (htrue.operand ht)).append
        (.refl _)).append (hfalse.operand hf)
    | _ => simp [Expr.same] at h
  | .assignment target source, e', h => by
    cases e' with
    | assignment target' source' =>
      simp only [Expr.same, Bool.and_eq_true] at h
      refine ((agrees_variable target target' h.1).append (agrees_expr source source' h.2)).imp
        fun ⟨htarget, hsource⟩ => ?_
      exact (htarget.append (.refl _)).append hsource
    | _ => simp [Expr.same] at h
  | .call name receiver gs as type, e', h => by
    cases e' with
    | call name' receiver' gs' as' type' =>
      simp only [Expr.same, Bool.and_eq_true] at h
      obtain ⟨⟨⟨⟨hname, hreceiver⟩, hgs⟩, has⟩, htype⟩ := h
      obtain rfl : name = name' := eq_of_beq hname
      refine ((((agrees_receiver receiver receiver' hreceiver).append
        (namedAlike_references gs gs' hgs)).append (agrees_exprs as as' has)).append
        (typedAlike_type htype)).imp fun ⟨⟨⟨hbefore, hgenerics⟩, harguments⟩, _⟩ => ?_
      have htypes : Agrees (if receiver'.isImplicit then [] else Layout.typeArguments gs)
          (if receiver'.isImplicit then [] else Layout.typeArguments gs') := by
        split
        · exact .refl _
        · exact agrees_typeArguments hgenerics
      change Agrees (receiver.doc ++ (if receiver.isImplicit then [] else _) ++ _ ++ _) _
      rw [Receiver.isImplicit_eq_of_same hreceiver]
      exact ((hbefore.append htypes).append (.refl _)).append (agrees_applied harguments)
    | _ => simp [Expr.same] at h
  | .create type as isDiamond, e', h => by
    cases e' with
    | create type' as' isDiamond' =>
      simp only [Expr.same, Bool.and_eq_true] at h
      obtain ⟨⟨htype, has⟩, hdiamond⟩ := h
      obtain rfl : isDiamond = isDiamond' := eq_of_beq hdiamond
      refine ((namedAlike_reference type type' htype).append (agrees_exprs as as' has)).imp
        fun ⟨hcreated, harguments⟩ => ?_
      exact ((Agrees.refl _).append (agrees_created hcreated isDiamond)).append
        (agrees_applied harguments)
    | _ => simp [Expr.same] at h
  | .cast type e, e', h => by
    cases e' with
    | cast type' operand' =>
      simp only [Expr.same, Bool.and_eq_true] at h
      refine ((typedAlike_type h.1).append (agrees_expr e operand' h.2)).imp
        fun ⟨htype, hoperand⟩ => ?_
      exact ((htype.1.parens.append (.refl _)).append (hoperand.operand h.2)).parens
    | _ => simp [Expr.same] at h
  | .instanceOf e type, e', h => by
    cases e' with
    | instanceOf operand' type' =>
      simp only [Expr.same, Bool.and_eq_true] at h
      refine ((agrees_expr e operand' h.1).append (typedAlike_type h.2)).imp
        fun ⟨hoperand, htype⟩ => ?_
      exact ((hoperand.operand h.1).append (.refl _)).append htype.2
    | _ => simp [Expr.same] at h
  | .comparison operator l r, e', h => by
    cases e' with
    | comparison operator' l' r' =>
      simp only [Expr.same, Bool.and_eq_true] at h
      obtain ⟨⟨hoperator, hl⟩, hr⟩ := h
      obtain rfl : operator = operator' := eq_of_beq hoperator
      refine ((agrees_expr l l' hl).append (agrees_expr r r' hr)).imp fun ⟨hleft, hright⟩ => ?_
      exact ((hleft.operand hl).append (.refl _)).append (hright.operand hr)
    | _ => simp [Expr.same] at h
  | .anonymousClass type ss ms, e', h => by
    cases e' with
    | anonymousClass type' ss' ms' =>
      simp only [Expr.same, Bool.and_eq_true] at h
      obtain ⟨⟨htype, hss⟩, hms⟩ := h
      refine (((namedAlike_reference type type' htype).append
        (agrees_statements ss ss' hss)).append (agrees_methods ms ms' hms)).imp
        fun ⟨⟨hnamed, hstatements⟩, hmethods⟩ => ?_
      exact (((((Agrees.refl _).append hnamed.2).append (.refl _)).append
        (agrees_members hss hstatements hmethods).nest)).append (.refl _)
    | _ => simp [Expr.same] at h
  | .delegation target type as, e', h => by
    cases e' with
    | delegation target' type' as' =>
      simp only [Expr.same, Bool.and_eq_true] at h
      obtain ⟨⟨htarget, htype⟩, has⟩ := h
      obtain rfl : target = target' := eq_of_beq htarget
      refine ((namedAlike_reference type type' htype).append (agrees_exprs as as' has)).imp
        fun ⟨_, harguments⟩ => ?_
      exact (Agrees.refl _).append (agrees_applied harguments)
    | _ => simp [Expr.same] at h

/-- Equal expressions agree at every position of a list. -/
theorem agrees_exprs : ∀ es es' : List Expr, sameExprs es es' = true →
    WhenImportedAlike (exprsMentions es) (exprsMentions es')
      (List.Forall₂ Agrees (exprDocs es) (exprDocs es'))
  | [], es', h => by
    cases es' with
    | nil => exact .nil .nil
    | cons e' es' => simp [sameExprs] at h
  | e :: es, es', h => by
    cases es' with
    | nil => simp [sameExprs] at h
    | cons e' es' =>
      simp only [sameExprs, Bool.and_eq_true] at h
      exact ((agrees_expr e e' h.1).append (agrees_exprs es es' h.2)).imp
        fun ⟨hfirst, hothers⟩ => .cons hfirst hothers

/-- Equal receivers agree. -/
theorem agrees_receiver : ∀ receiver receiver' : Receiver, receiver.same receiver' = true →
    WhenImportedAlike receiver.mentions receiver'.mentions (Agrees receiver.doc receiver'.doc)
  | .implicit, receiver', h => by
    cases receiver' with
    | implicit => exact .nil (.refl _)
    | _ => simp [Receiver.same] at h
  | .object e, receiver', h => by
    cases receiver' with
    | object e' =>
      simp only [Receiver.same] at h
      exact (agrees_expr e e' h).imp fun hobject => (hobject.operand h).append (.refl _)
    | _ => simp [Receiver.same] at h
  | .owner r, receiver', h => by
    cases receiver' with
    | owner s =>
      simp only [Receiver.same] at h
      exact (namedAlike_reference r s h).imp fun ⟨hname, _⟩ =>
        .cons (.name hname) (Agrees.refl _)
    | _ => simp [Receiver.same] at h

/-- Equal variable expressions agree. -/
theorem agrees_variable : ∀ v w : VariableExpr, v.same w = true →
    WhenImportedAlike v.mentions w.mentions (Agrees v.doc w.doc)
  | .declaration d, w, h => by
    cases w with
    | declaration e => exact agrees_declaration (by simpa only [VariableExpr.same] using h)
    | _ => simp [VariableExpr.same] at h
  | .use v receiver, w, h => by
    cases w with
    | use v' receiver' =>
      simp only [VariableExpr.same, Bool.and_eq_true] at h
      obtain ⟨hidentifier, htype⟩ := Variable.beq_iff.1 h.1
      have hname : v.name = v'.name := congrArg Identifier.text hidentifier
      refine ((agrees_receiver receiver receiver' h.2).append (typedAlike_type htype)).imp
        fun ⟨hbefore, _⟩ => ?_
      change Agrees (receiver.doc ++ ofText v.name) (receiver'.doc ++ ofText v'.name)
      rw [hname]
      exact hbefore.append (.refl _)
    | _ => simp [VariableExpr.same] at h

/-- Equal statements agree. -/
theorem agrees_statement : ∀ s s' : Statement, s.same s' = true →
    WhenImportedAlike s.mentions s'.mentions (Agrees s.doc s'.doc)
  | .expression e, s', h => by
    cases s' with
    | expression e' =>
      simp only [Statement.same] at h
      exact (agrees_expr e e' h).imp fun he => (he.append (.refl _)).line
    | _ => simp [Statement.same] at h
  | .block isStatic body, s', h => by
    cases s' with
    | block isStatic' body' =>
      simp only [Statement.same, Bool.and_eq_true] at h
      obtain rfl : isStatic = isStatic' := eq_of_beq h.1
      exact (agrees_statements body body' h.2).imp fun hbody => (Agrees.refl _).braced hbody
    | _ => simp [Statement.same] at h
  | .conditional ⟨c, body⟩ others otherwise, s', h => by
    cases s' with
    | conditional first' others' otherwise' =>
      obtain ⟨c', body'⟩ := first'
      simp only [Statement.same, Branch.same, Bool.and_eq_true] at h
      obtain ⟨⟨⟨hc, hbody⟩, hothers⟩, hotherwise⟩ := h
      refine ((((agrees_expr c c' hc).append (agrees_statements body body' hbody)).append
        (agrees_branches others others' hothers)).append
        (agrees_statements otherwise otherwise' hotherwise)).imp
        fun ⟨⟨⟨hcond, hthen⟩, hmore⟩, helse⟩ => ?_
      have hlast : Agrees
          (if otherwise'.isEmpty then [] else
            line (ofText "\x7d else \x7b") ++ nest (statementsDoc otherwise))
          (if otherwise'.isEmpty then [] else
            line (ofText "\x7d else \x7b") ++ nest (statementsDoc otherwise')) := by
        split
        · exact .refl _
        · exact (Agrees.refl _).append helse.nest
      change Agrees (_ ++ _ ++ _ ++ (if otherwise.isEmpty then [] else _) ++ _) _
      rw [isEmpty_eq_of_sameStatements hotherwise]
      exact (((((((Agrees.refl _).append hcond.parens).append (.refl _)).line.append
        hthen.nest).append hmore).append hlast)).append (.refl _)
    | _ => simp [Statement.same] at h
  | .forEach item collection body, s', h => by
    cases s' with
    | forEach item' collection' body' =>
      simp only [Statement.same, Bool.and_eq_true] at h
      obtain ⟨⟨hitem, hcollection⟩, hbody⟩ := h
      refine (((agrees_declaration hitem).append
        (agrees_expr collection collection' hcollection)).append
        (agrees_statements body body' hbody)).imp fun ⟨⟨hdeclared, helements⟩, hstatements⟩ => ?_
      exact (((Agrees.refl _).append ((hdeclared.append (.refl _)).append helements).parens).append
        (.refl _)).braced hstatements
    | _ => simp [Statement.same] at h
  | .whileLoop c body, s', h => by
    cases s' with
    | whileLoop c' body' =>
      simp only [Statement.same, Bool.and_eq_true] at h
      refine ((agrees_expr c c' h.1).append (agrees_statements body body' h.2)).imp
        fun ⟨hcond, hstatements⟩ => ?_
      exact (((Agrees.refl _).append hcond.parens).append (.refl _)).braced hstatements
    | _ => simp [Statement.same] at h
  | .tryCatch resource body handler, s', h => by
    cases s' with
    | tryCatch resource' body' handler' =>
      simp only [Statement.same, Bool.and_eq_true] at h
      obtain ⟨⟨hresource, hbody⟩, hhandler⟩ := h
      refine (((agrees_resource resource resource' hresource).append
        (agrees_statements body body' hbody)).append (agrees_handler handler handler' hhandler)).imp
        fun ⟨⟨hopened, hstatements⟩, hcaught⟩ => ?_
      exact (((((Agrees.refl _).append hopened).append (.refl _)).line.append
        hstatements.nest).append hcaught).append (.refl _)
    | _ => simp [Statement.same] at h
  | .comment c, s', h => by
    cases s' with
    | comment c' =>
      simp only [Statement.same] at h
      obtain rfl : c = c' := eq_of_beq h
      exact .nil (.refl _)
    | _ => simp [Statement.same] at h
  | .emptyLine, s', h => by
    cases s' with
    | emptyLine => exact .nil (.refl _)
    | _ => simp [Statement.same] at h

/-- Equal statements agree in a sequence. -/
theorem agrees_statements : ∀ ss ss' : List Statement, sameStatements ss ss' = true →
    WhenImportedAlike (statementsMentions ss) (statementsMentions ss')
      (Agrees (statementsDoc ss) (statementsDoc ss'))
  | [], ss', h => by
    cases ss' with
    | nil => exact .nil .nil
    | cons s' ss' => simp [sameStatements] at h
  | s :: ss, ss', h => by
    cases ss' with
    | nil => simp [sameStatements] at h
    | cons s' ss' =>
      simp only [sameStatements, Bool.and_eq_true] at h
      exact ((agrees_statement s s' h.1).append (agrees_statements ss ss' h.2)).imp
        fun ⟨hfirst, hothers⟩ => hfirst.append hothers

/-- Equal branches agree. -/
theorem agrees_branches : ∀ bs bs' : List Branch, sameBranches bs bs' = true →
    WhenImportedAlike (branchesMentions bs) (branchesMentions bs')
      (Agrees (branchesDoc bs) (branchesDoc bs'))
  | [], bs', h => by
    cases bs' with
    | nil => exact .nil .nil
    | cons b' bs' => simp [sameBranches] at h
  | ⟨c, body⟩ :: bs, bs', h => by
    cases bs' with
    | nil => simp [sameBranches] at h
    | cons b' bs' =>
      obtain ⟨c', body'⟩ := b'
      simp only [sameBranches, Branch.same, Bool.and_eq_true] at h
      obtain ⟨⟨hc, hbody⟩, hbs⟩ := h
      refine (((agrees_expr c c' hc).append (agrees_statements body body' hbody)).append
        (agrees_branches bs bs' hbs)).imp fun ⟨⟨hcond, hthen⟩, hmore⟩ => ?_
      exact ((((Agrees.refl _).append hcond.parens).append (.refl _)).line.append
        hthen.nest).append hmore

/-- Equal resources agree. -/
theorem agrees_resource : ∀ resource resource' : Resource, resource.same resource' = true →
    WhenImportedAlike resource.mentions resource'.mentions (Agrees resource.doc resource'.doc)
  | .absent, resource', h => by
    cases resource' with
    | absent => exact .nil .nil
    | _ => simp [Resource.same] at h
  | .binding d source, resource', h => by
    cases resource' with
    | binding d' source' =>
      simp only [Resource.same, Bool.and_eq_true] at h
      refine ((agrees_declaration h.1).append (agrees_expr source source' h.2)).imp
        fun ⟨hdeclared, hsource⟩ => ?_
      exact ((hdeclared.append (.refl _)).append hsource).parens.append (.refl _)
    | _ => simp [Resource.same] at h

/-- Equal handlers agree. -/
theorem agrees_handler : ∀ handler handler' : Handler, handler.same handler' = true →
    WhenImportedAlike handler.mentions handler'.mentions (Agrees handler.doc handler'.doc)
  | .omitted, handler', h => by
    cases handler' with
    | omitted => exact .nil .nil
    | _ => simp [Handler.same] at h
  | .sample v body, handler', h => by
    cases handler' with
    | sample v' body' =>
      simp only [Handler.same, Bool.and_eq_true] at h
      refine ((agrees_variable v v' h.1).append (agrees_statements body body' h.2)).imp
        fun ⟨hcaught, hstatements⟩ => ?_
      exact (((Agrees.refl _).append hcaught.parens).append (.refl _)).line.append hstatements.nest
    | _ => simp [Handler.same] at h
  | .executable d body, handler', h => by
    cases handler' with
    | executable d' body' =>
      simp only [Handler.same, Bool.and_eq_true] at h
      refine ((agrees_declaration h.1).append (agrees_statements body body' h.2)).imp
        fun ⟨hcaught, hstatements⟩ => ?_
      exact (((Agrees.refl _).append hcaught.parens).append (.refl _)).line.append hstatements.nest
    | _ => simp [Handler.same] at h

/-- Equal methods agree. -/
theorem agrees_method : ∀ m m' : Method, m.same m' = true →
    WhenImportedAlike m.mentions m'.mentions (Agrees m.doc m'.doc)
  | ⟨h, body, none⟩, ⟨h', body', result'⟩, hsame => by
    cases result' with
    | none =>
      simp only [Method.same, Bool.and_eq_true] at hsame
      exact ((agrees_layoutMethod hsame.1).append (agrees_statements body body' hsame.2)).imp
        fun ⟨hlayout, hstatements⟩ => hlayout _ _ hstatements
    | some e' => simp [Method.same] at hsame
  | ⟨h, body, some e⟩, ⟨h', body', result'⟩, hsame => by
    cases result' with
    | none => simp [Method.same] at hsame
    | some e' =>
      simp only [Method.same, Bool.and_eq_true] at hsame
      obtain ⟨⟨hheader, hbody⟩, he⟩ := hsame
      refine ((agrees_layoutMethod hheader).append
        ((agrees_statements body body' hbody).append (agrees_expr e e' he))).imp
        fun ⟨hlayout, hstatements, hresult⟩ => hlayout _ _ (hstatements.append ?_)
      exact (((Agrees.refl _).append hresult).append (.refl _)).line

/-- Equal methods agree at every position of a list. -/
theorem agrees_methods : ∀ ms ms' : List Method, sameMethods ms ms' = true →
    WhenImportedAlike (methodsMentions ms) (methodsMentions ms')
      (List.Forall₂ Agrees (methodDocs ms) (methodDocs ms'))
  | [], ms', h => by
    cases ms' with
    | nil => exact .nil .nil
    | cons m' ms' => simp [sameMethods] at h
  | m :: ms, ms', h => by
    cases ms' with
    | nil => simp [sameMethods] at h
    | cons m' ms' =>
      simp only [sameMethods, Bool.and_eq_true] at h
      exact ((agrees_method m m' h.1).append (agrees_methods ms ms' h.2)).imp
        fun ⟨hfirst, hothers⟩ => .cons hfirst hothers
end

mutual
/-- Equal classes agree. -/
theorem agrees_class : ∀ c c' : ClassDefinition, c.same c' = true →
    WhenImportedAlike c.mentions c'.mentions (Agrees c.doc c'.doc)
  | ⟨h, ss, ms, nested⟩, ⟨h', ss', ms', nested'⟩, hsame => by
    simp only [ClassDefinition.same, Bool.and_eq_true] at hsame
    obtain ⟨⟨⟨hheader, hss⟩, hms⟩, hnested⟩ := hsame
    rw [← sameStatements_eq_beq] at hss
    rw [← sameMethods_eq_beq] at hms
    refine ((agrees_layoutClass hheader).append
      (((agrees_statements ss ss' hss).append (agrees_methods ms ms' hms)).append
        (agrees_classes nested nested' hnested))).imp
      fun ⟨hlayout, ⟨hstatements, hmethods⟩, hclasses⟩ => hlayout _ _ ?_
    rw [List.append_assoc, List.append_assoc]
    exact agrees_members hss hstatements (List.rel_append hmethods hclasses)

/-- Equal classes agree at every position of a list. -/
theorem agrees_classes : ∀ cs cs' : List ClassDefinition,
    ClassDefinition.sameNested cs cs' = true →
    WhenImportedAlike (classesMentions cs) (classesMentions cs')
      (List.Forall₂ Agrees (classDocs cs) (classDocs cs'))
  | [], cs', h => by
    cases cs' with
    | nil => exact .nil .nil
    | cons c' cs' => simp [ClassDefinition.sameNested] at h
  | c :: cs, cs', h => by
    cases cs' with
    | nil => simp [ClassDefinition.sameNested] at h
    | cons c' cs' =>
      simp only [ClassDefinition.sameNested, Bool.and_eq_true] at h
      exact ((agrees_class c c' h.1).append (agrees_classes cs cs' h.2)).imp
        fun ⟨hfirst, hothers⟩ => .cons hfirst hothers
end

end Doc

end JavaSyntax
