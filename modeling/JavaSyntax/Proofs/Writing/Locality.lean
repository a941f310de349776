import JavaSyntax.Proofs.Writing.Levels

/-!
# Emission is local

Every action that writes a tree writes the document of the tree, by the closure of this under what
actions are composed of and by recursion on the tree. A document only extends the writer it is put
on, so this is all that a run of such an action does, and where nothing overflows the pages are
those of a writer with unbounded numbers.
-/

set_option autoImplicit false

namespace JavaSyntax

variable {bits : Nat}

namespace Emission

theorem Lays.operand {m : Emission bits} {d : Doc} (e : Expr) (h : m.Lays d) :
    Lays (operand e m) (e.operand d) := by
  unfold Emission.operand Expr.operand
  split
  · exact h.parens
  · exact h

theorem lays_applied {ms : List (Emission bits)} {ds : List Doc} (h : List.Forall₂ Lays ms ds) :
    Lays (applied ms) (Doc.parens (Doc.commaSeparated ds)) :=
  ((lays_text ", ").separated h).parens

/-- The members of a class, the statements first unless there are none. -/
theorem lays_members {m : Emission bits} {d : Doc} {ms : List (Emission bits)} {ds : List Doc}
    (isAbsent : Bool) (hm : m.Lays d) (h : List.Forall₂ Lays ms ds) :
    Lays (members isAbsent m ms)
      (Doc.blankSeparated ((if isAbsent then [] else [d]) ++ ds)) := by
  refine (lays_put [.newline]).separated (List.rel_append ?_ h)
  split
  · exact .nil
  · exact .cons hm .nil

theorem lays_methodWith {m : Emission bits} {d : Doc} (h : MethodHeader) (hm : m.Lays d) :
    Lays (method h m) (Layout.method h d) := by
  unfold method Layout.method
  refine (lays_put _).append ?_
  split
  · exact ((lays_put _).append (lays_text ";")).line
  · exact ((lays_put _).append (lays_text " ")).braced hm

/-! ## Trees -/

mutual
theorem lays_expr : ∀ e : Expr, Lays (e.emission : Emission bits) e.doc
  | .value _ => lays_put _
  | .var v => lays_variable v
  | .ternary c t f => by
    have hchoice := ((lays_expr c).operand c).append (lays_text " ? ")
    have hboth := (hchoice.append ((lays_expr t).operand t)).append (lays_text " : ")
    exact hboth.append ((lays_expr f).operand f)
  | .assignment target source =>
    ((lays_variable target).append (lays_text " = ")).append (lays_expr source)
  | .call name receiver _ as _ =>
    (((lays_receiver receiver).append (lays_put _)).append (lays_text name.text)).append
      (lays_applied (lays_exprs as))
  | .create _ as _ =>
    ((lays_text "new ").append (lays_put _)).append (lays_applied (lays_exprs as))
  | .cast type e => by
    have htype : Lays (parens (put type.doc) : Emission bits) _ := (lays_put type.doc).parens
    exact ((htype.append (lays_text " ")).append ((lays_expr e).operand e)).parens
  | .instanceOf e type =>
    (((lays_expr e).operand e).append (lays_text " instanceof ")).append (lays_put type.rawDoc)
  | .comparison _ l r =>
    (((lays_expr l).operand l).append (lays_text _)).append ((lays_expr r).operand r)
  | .anonymousClass type ss ms => by
    have hmembers := lays_members ss.isEmpty (lays_statements ss) (lays_methods ms)
    have htype : Lays (text "new " ++ put type.doc : Emission bits) _ :=
      (lays_text "new ").append (lays_put type.doc)
    exact ((htype.append (lays_put _)).append hmembers.nested).append (lays_put _)
  | .delegation target _ as => (lays_text target.keyword).append (lays_applied (lays_exprs as))

theorem lays_exprs : ∀ es : List Expr,
    List.Forall₂ Lays (exprEmissions es : List (Emission bits)) (exprDocs es)
  | [] => .nil
  | e :: es => .cons (lays_expr e) (lays_exprs es)

theorem lays_receiver : ∀ receiver : Receiver,
    Lays (receiver.emission : Emission bits) receiver.doc
  | .implicit => lays_skip
  | .object e => ((lays_expr e).operand e).append (lays_text ".")
  | .owner _ => lays_put _

theorem lays_variable : ∀ v : VariableExpr, Lays (v.emission : Emission bits) v.doc
  | .declaration d => lays_put d.doc
  | .use v receiver => (lays_receiver receiver).append (lays_text v.name)

theorem lays_statement : ∀ s : Statement, Lays (s.emission : Emission bits) s.doc
  | .expression e => ((lays_expr e).append (lays_text ";")).line
  | .block _ body => (lays_put _).braced (lays_statements body)
  | .conditional ⟨c, body⟩ others otherwise => by
    have hif := (lays_text "if ").append (lays_expr c).parens
    have hfirst := (hif.append (lays_text " \x7b")).line.append (lays_statements body).nested
    have helse : Lays
        (if otherwise.isEmpty then skip else
          line (text "\x7d else \x7b") ++ nested (statementsEmission otherwise) : Emission bits)
        (if otherwise.isEmpty then [] else
          Doc.line (Doc.ofText "\x7d else \x7b") ++ Doc.nest (statementsDoc otherwise)) := by
      split
      · exact lays_skip
      · exact (lays_text _).line.append (lays_statements otherwise).nested
    exact ((hfirst.append (lays_branches others)).append helse).append (lays_text "\x7d").line
  | .forEach item collection body => by
    have hitem : Lays (put item.doc ++ text " : " : Emission bits) _ :=
      (lays_put item.doc).append (lays_text " : ")
    have hrange := (hitem.append (lays_expr collection)).parens
    have hhead := ((lays_text "for ").append hrange).append (lays_text " ")
    exact hhead.braced (lays_statements body)
  | .whileLoop c body => by
    have hhead := ((lays_text "while ").append (lays_expr c).parens).append (lays_text " ")
    exact hhead.braced (lays_statements body)
  | .tryCatch resource body handler => by
    have htry := ((lays_text "try ").append (lays_resource resource)).append (lays_text "\x7b")
    have hbody := htry.line.append (lays_statements body).nested
    exact (hbody.append (lays_handler handler)).append (lays_text "\x7d").line
  | .comment c => lays_put c.doc
  | .emptyLine => lays_put _

theorem lays_statements : ∀ ss : List Statement,
    Lays (statementsEmission ss : Emission bits) (statementsDoc ss)
  | [] => lays_skip
  | s :: ss => (lays_statement s).append (lays_statements ss)

theorem lays_branches : ∀ bs : List Branch,
    Lays (branchesEmission bs : Emission bits) (branchesDoc bs)
  | [] => lays_skip
  | ⟨c, body⟩ :: rest => by
    have hif := ((lays_text "\x7d else if ").append (lays_expr c).parens).append (lays_text " \x7b")
    exact (hif.line.append (lays_statements body).nested).append (lays_branches rest)

theorem lays_resource : ∀ resource : Resource,
    Lays (resource.emission : Emission bits) resource.doc
  | .absent => lays_skip
  | .binding d source => by
    have hbinding := ((lays_put d.doc).append (lays_text " = ")).append (lays_expr source)
    exact hbinding.parens.append (lays_text " ")

theorem lays_handler : ∀ handler : Handler, Lays (handler.emission : Emission bits) handler.doc
  | .omitted => lays_skip
  | .sample v body => by
    have hcatch := (lays_text "\x7d catch ").append (lays_variable v).parens
    exact (hcatch.append (lays_text " \x7b")).line.append (lays_statements body).nested
  | .executable d body => by
    have hcatch : Lays (text "\x7d catch " ++ parens (put d.doc) : Emission bits) _ :=
      (lays_text "\x7d catch ").append (lays_put d.doc).parens
    exact (hcatch.append (lays_text " \x7b")).line.append (lays_statements body).nested

theorem lays_method : ∀ m : Method, Lays (m.emission : Emission bits) m.doc
  | ⟨h, body, none⟩ => lays_methodWith h (lays_statements body)
  | ⟨h, body, some e⟩ => by
    have hreturn := ((lays_text "return ").append (lays_expr e)).append (lays_text ";")
    exact lays_methodWith h ((lays_statements body).append hreturn.line)

theorem lays_methods : ∀ ms : List Method,
    List.Forall₂ Lays (methodEmissions ms : List (Emission bits)) (methodDocs ms)
  | [] => .nil
  | m :: ms => .cons (lays_method m) (lays_methods ms)
end

mutual
theorem lays_class : ∀ c : ClassDefinition, Lays (c.emission : Emission bits) c.doc
  | ⟨h, ss, ms, inner⟩ => by
    have hothers := List.rel_append (lays_methods ms) (lays_classes inner)
    have hmembers := lays_members ss.isEmpty (lays_statements ss) hothers
    rw [← List.append_assoc] at hmembers
    exact (lays_put _).append (((lays_put _).append (lays_text " ")).braced hmembers)

theorem lays_classes : ∀ cs : List ClassDefinition,
    List.Forall₂ Lays (classEmissions cs : List (Emission bits)) (classDocs cs)
  | [] => .nil
  | c :: cs => .cons (lays_class c) (lays_classes cs)
end

/-- Whatever is written is written by its action. -/
theorem lays_fragment (t : Fragment) : Lays (t.emission : Emission bits) t.doc := by
  cases t with
  | expr e => exact lays_expr e
  | var v => exact lays_variable v
  | arguments es => exact lays_applied (lays_exprs es)
  | statement s => exact lays_statement s
  | body ss => exact lays_statements ss
  | comment c => exact lays_put c.doc
  | method m => exact lays_method m
  | definition c => exact lays_class c

end Emission

/-! ## Writers extend -/

namespace WordWriter

/-- What a writer keeps when something is written. -/
structure Extends (w w' : WordWriter bits) : Prop where
  indentWidth : w'.indentWidth = w.indentWidth
  emitPackage : w'.emitPackage = w.emitPackage
  indentLevel : w'.indentLevel = w.indentLevel
  buffer : w.buffer.toList <+: w'.buffer.toList
  table : w.imports.Extends w'.imports

theorem Extends.refl (w : WordWriter bits) : w.Extends w :=
  ⟨rfl, rfl, rfl, List.prefix_refl _, .refl _⟩

theorem Extends.trans {w w' w'' : WordWriter bits} (h : w.Extends w') (h' : w'.Extends w'') :
    w.Extends w'' where
  indentWidth := h'.indentWidth.trans h.indentWidth
  emitPackage := h'.emitPackage.trans h.emitPackage
  indentLevel := h'.indentLevel.trans h.indentLevel
  buffer := h.buffer.trans h'.buffer
  table := h.table.trans h'.table

theorem extends_putPiece (w : WordWriter bits) (p : Piece) : w.Extends (w.putPiece p) := by
  cases p with
  | margin | text | newline =>
    exact ⟨rfl, rfl, rfl, by simp [putPiece], .refl _⟩
  | name r =>
    exact ⟨rfl, rfl, rfl, by simp [putPiece], ImportTable.extends_enter _ r⟩

theorem extends_put (w : WordWriter bits) (d : Doc) : w.Extends (w.put d) := by
  induction d generalizing w with
  | nil => exact .refl w
  | cons p d ih => exact (w.extends_putPiece p).trans (ih _)

/-- Words that fit tell the same as numbers of any size. -/
theorem toWriter_putPiece {w : WordWriter bits} {p : Piece} (h : w.fitsPiece p = true) :
    (w.putPiece p).toWriter = w.toWriter.put [p] := by
  cases p with
  | margin k =>
    have hwidth : (w.indentLevel.toNat + k) * w.indentWidth.toNat % 2 ^ bits
        = (w.indentLevel.toNat + k) * w.indentWidth.toNat :=
      Nat.mod_eq_of_lt (fitsWord_iff.1 h)
    rw [Writer.put_unnamed _ rfl]
    simp [toWriter, putPiece, Piece.write, hwidth]
  | text | newline =>
    rw [Writer.put_unnamed _ rfl]
    simp [toWriter, putPiece, Piece.write]
  | name r => exact (Writer.put_name w.toWriter r).symm

theorem toWriter_put {w : WordWriter bits} {depth : Nat} {d : Doc} (h : w.Fits depth d) :
    (w.put d).toWriter = w.toWriter.put d := by
  induction d generalizing w with
  | nil => exact w.toWriter.put_nil.symm
  | cons p d ih =>
    have hfits : w.Fits (max 0 depth) ([p] ++ d) := by simpa using h
    obtain ⟨hp, hd⟩ := fits_append_iff.1 hfits
    calc (w.put (p :: d)).toWriter
        = (w.putPiece p).toWriter.put d := ih hd
      _ = (w.toWriter.put [p]).put d := by
          rw [toWriter_putPiece (Emission.fits_singleton_iff.1 hp)]
      _ = w.toWriter.put (p :: d) := (w.toWriter.put_append [p] d).symm

end WordWriter

/-! ## Emission is local -/

namespace Emission

variable {m : Emission bits} {d : Doc} {depth : Nat} {w w' : WordWriter bits}

/-- A checked run that ends has overflowed nowhere. -/
theorem Emits.fits_of_run (h : m.Emits d depth) (hrun : m.run .checked w = .ok w') :
    w.Fits depth d := by
  by_contra hfits
  exact (h.stops w hfits).ne_ok w' hrun

theorem Emits.run_checked_iff (h : m.Emits d depth) :
    (∃ w', m.run .checked w = .ok w') ↔ w.Fits depth d :=
  ⟨fun ⟨_, hrun⟩ => h.fits_of_run hrun, fun hfits => ⟨_, h.checked w hfits⟩⟩

/-- However it is carried out, a run that ends has written the document. -/
theorem Emits.eq_put (h : m.Emits d depth) {a : Arithmetic} (hrun : m.run a w = .ok w') :
    w' = w.put d := by
  cases a with
  | wrapping => exact Except.ok.inj (hrun.symm.trans (h.wrapping w))
  | checked => exact Except.ok.inj (hrun.symm.trans (h.checked w (h.fits_of_run hrun)))

theorem Emits.run_checked_ne_lower (h : m.Emits d depth) (w : WordWriter bits) :
    m.run .checked w ≠ .error .lower := by
  by_cases hfits : w.Fits depth d
  · rw [h.checked w hfits]
    exact nofun
  · exact (h.stops w hfits).ne_lower

theorem run_statements_append (a : Arithmetic) (ss ts : List Statement) (w : WordWriter bits) :
    (statementsEmission (ss ++ ts)).run a w
      = (statementsEmission ss).run a w >>= (statementsEmission ts).run a := by
  induction ss generalizing w with
  | nil => rfl
  | cons s ss ih =>
    change s.emission.run a w >>= (statementsEmission (ss ++ ts)).run a
      = (s.emission.run a w >>= (statementsEmission ss).run a) >>= _
    rw [bind_assoc]
    exact congrArg _ (funext ih)

end Emission

namespace WordWriter

/-- What a checked run leaves on a new page is what is put there. -/
theorem toWriter_of_run {m : Emission bits} {d : Doc} (hlays : m.Lays d) {w page : WordWriter bits}
    {table : ImportTable} (hrun : m.run .checked (w.reset table) = .ok page) :
    page.toWriter = (w.toWriter.reset table).put d := by
  obtain ⟨depth, h⟩ := hlays
  obtain rfl := h.eq_put hrun
  rw [toWriter_put (h.fits_of_run hrun)]
  simp [reset, Writer.reset, toWriter]

/-- So a page that is taken off after a checked run is the page with the document on it. -/
theorem toWriter_of_take {m : Emission bits} {d : Doc} (hlays : m.Lays d) {w w' : WordWriter bits}
    {table : ImportTable} {package : Option String} {e : Emitted}
    (h : (m.run .checked (w.reset table) >>= fun page => .ok (page.take package)) = .ok (e, w')) :
    ((w.toWriter.reset table).put d).take package = (e, w'.toWriter) := by
  cases hrun : m.run .checked (w.reset table) with
  | error o =>
    rw [hrun] at h
    cases h
  | ok page =>
    rw [hrun] at h
    cases h
    rw [← toWriter_of_run hlays hrun]
    rfl

theorem toWriter_writeClass {w w' : WordWriter bits} {c : ClassDefinition} {e : Emitted}
    (h : w.writeClass .checked c = .ok (e, w')) :
    w.toWriter.writeClass c = (e, w'.toWriter) :=
  toWriter_of_take (Emission.lays_class c) h

theorem toWriter_writeStatements {w w' : WordWriter bits} {ss : List Statement} {e : Emitted}
    (h : w.writeStatements .checked ss = .ok (e, w')) :
    w.toWriter.writeStatements ss = (e, w'.toWriter) :=
  toWriter_of_take (Emission.lays_statements ss) h

/-- What is written of the first statements does not depend on the statements behind them. -/
theorem writeStatements_append {a : Arithmetic} {w w' : WordWriter bits} {ss ts : List Statement}
    {e : Emitted} (h : w.writeStatements a (ss ++ ts) = .ok (e, w')) :
    ∃ first v, w.writeStatements a ss = .ok (first, v) ∧
      first.source.toList <+: e.source.toList ∧ (∀ line ∈ first.imports, line ∈ e.imports) ∧
      v.imports.references <+: w'.imports.references := by
  obtain ⟨depth, hlays⟩ : Emission.Lays (statementsEmission ts : Emission bits) _ :=
    Emission.lays_statements ts
  simp only [writeStatements, Emission.run_statements_append] at h ⊢
  cases hfirst : (statementsEmission ss).run a (w.reset (ImportTable.empty "")) with
  | error o =>
    rw [hfirst] at h
    cases h
  | ok page =>
    rw [hfirst] at h
    change ((statementsEmission ts).run a page >>= _) = _ at h
    cases hothers : (statementsEmission ts).run a page with
    | error o =>
      rw [hothers] at h
      cases h
    | ok whole =>
      rw [hothers] at h
      cases h
      have hextends : page.Extends whole := hlays.eq_put hothers ▸ page.extends_put _
      exact ⟨_, _, rfl, hextends.buffer, hextends.table.imports, hextends.table.references⟩

/-- Emission is local. Whatever is written, and however the run is carried out, a run that ends has
put the document of it on the page: it has only extended the writer, which is back at its level. If
the numbers of the run are checked, it ends exactly where they all fit in words, and never stops
because there is no level to go back to; unbounded numbers would have led to the same. If they wrap
around, it always ends, even when the level has wrapped in it. So what is written of the first
statements does not depend on the statements behind them. -/
theorem emission_local (bits : Nat) :
    (∀ (t : Fragment) (w : WordWriter bits),
      w.Extends (w.put t.doc) ∧ t.emission.run .wrapping w = .ok (w.put t.doc) ∧
      (∀ w', t.emission.run .checked w = .ok w' →
        w' = w.put t.doc ∧ w'.toWriter = w.toWriter.put t.doc) ∧
      t.emission.run .checked w ≠ .error .lower) ∧
    (∀ t : Fragment, ∃ depth, ∀ w : WordWriter bits,
      (∃ w', t.emission.run .checked w = .ok w') ↔ w.Fits depth t.doc) ∧
    (∀ (w w' : WordWriter bits) (e : Emitted),
      (∀ c, w.writeClass .checked c = .ok (e, w') → w.toWriter.writeClass c = (e, w'.toWriter)) ∧
      ∀ ss, w.writeStatements .checked ss = .ok (e, w') →
        w.toWriter.writeStatements ss = (e, w'.toWriter)) ∧
    (∀ (a : Arithmetic) (w w' : WordWriter bits) (ss ts : List Statement) (e : Emitted),
      w.writeStatements a (ss ++ ts) = .ok (e, w') →
        ∃ first v, w.writeStatements a ss = .ok (first, v) ∧
          first.source.toList <+: e.source.toList ∧ (∀ line ∈ first.imports, line ∈ e.imports) ∧
          v.imports.references <+: w'.imports.references) ∧
    ∀ (w : Writer) (a b : List Statement),
      (w.writeStatements a).1.source.toList <+: (w.writeStatements (a ++ b)).1.source.toList ∧
      (∀ line ∈ (w.writeStatements a).1.imports, line ∈ (w.writeStatements (a ++ b)).1.imports) ∧
      (w.writeStatements a).2.imports.references
        <+: (w.writeStatements (a ++ b)).2.imports.references := by
  refine ⟨fun t w => ?_, fun t => ?_,
    fun w w' e => ⟨fun c => toWriter_writeClass, fun ss => toWriter_writeStatements⟩,
    fun a w w' ss ts e => writeStatements_append, fun w a b => w.writeStatements_append a b⟩
  · obtain ⟨depth, h⟩ : Emission.Lays (t.emission : Emission bits) t.doc := Emission.lays_fragment t
    refine ⟨w.extends_put _, h.wrapping w, fun w' hrun => ?_, h.run_checked_ne_lower w⟩
    obtain rfl := h.eq_put hrun
    exact ⟨rfl, toWriter_put (h.fits_of_run hrun)⟩
  · obtain ⟨depth, h⟩ : Emission.Lays (t.emission : Emission bits) t.doc := Emission.lays_fragment t
    exact ⟨depth, fun w => h.run_checked_iff⟩

/-- A writer with an empty page, this many levels below the highest one. -/
def belowHighest (levels : Nat) : WordWriter 64 where
  indentWidth := 0
  emitPackage := true
  imports := ImportTable.empty ""
  buffer := ""
  indentLevel := BitVec.ofNat 64 (2 ^ 64 - 1 - levels)

/-- The statement `{ { } }`, written from two levels below the highest one, and the statement `{ }`
and a class `Box`, written on pages of their own. -/
theorem emission_local_highest :
    let nothing : Statement := .block false []
    let t : Fragment := .statement (.block false [nothing])
    let box : ClassDefinition :=
      ⟨⟨[], [], .topLevel [{ text := "com" }], {}, { text := "Box" }, none, []⟩, [], [], []⟩
    let w := belowHighest 2
    t.emission.run .checked w = .ok (w.put t.doc) ∧ w.Extends (w.put t.doc) ∧
      (w.put t.doc).toWriter = w.toWriter.put t.doc ∧
      (∃ e w', w.writeClass .checked box = .ok (e, w') ∧
        w.toWriter.writeClass box = (e, w'.toWriter)) ∧
      ∃ e w', w.writeStatements .checked ([nothing] ++ [nothing]) = .ok (e, w') ∧
        w.toWriter.writeStatements ([nothing] ++ [nothing]) = (e, w'.toWriter) ∧
        ∃ first v, w.writeStatements .checked [nothing] = .ok (first, v) ∧
          first.source.toList <+: e.source.toList := by
  have hrun : ∃ w', (Fragment.statement (.block false [.block false []])).emission.run .checked
      (belowHighest 2) = .ok w' := ⟨_, rfl⟩
  have hclass : ∃ e w', (belowHighest 2).writeClass .checked
      ⟨⟨[], [], .topLevel [{ text := "com" }], {}, { text := "Box" }, none, []⟩, [], [], []⟩
        = .ok (e, w') := ⟨_, _, rfl⟩
  have hpage : ∃ e w', (belowHighest 2).writeStatements .checked
      ([.block false []] ++ [.block false []]) = .ok (e, w') := ⟨_, _, rfl⟩
  intro nothing t box w
  obtain ⟨w', hrun⟩ := hrun
  obtain ⟨c, u, hclass⟩ := hclass
  obtain ⟨e, v, hpage⟩ := hpage
  obtain ⟨hwrite, -, hpages, hstatements, -⟩ := emission_local 64
  obtain ⟨hextends, -, hchecked, -⟩ := hwrite t w
  obtain ⟨rfl, hwriter⟩ := hchecked w' hrun
  obtain ⟨first, before, hfirst, hprefix, -⟩ := hstatements _ _ _ _ _ _ hpage
  exact ⟨hrun, hextends, hwriter, ⟨c, u, hclass, (hpages w u c).1 box hclass⟩,
    e, v, hpage, (hpages w v e).2 _ hpage, first, before, hfirst, hprefix⟩

/-- From the highest level there is none to go to. -/
example : (Fragment.statement (.block false [])).emission.run .checked (belowHighest 0)
    = .error .raise := rfl

end WordWriter

end JavaSyntax
