import JavaSyntax.Layout.Tree
import JavaSyntax.Proofs.Source.Reader
import JavaSyntax.Writer

/-!
# Written expressions are unambiguous

The text of an expression that has an outline is read back as this outline, whatever types the
expression has. So two such expressions with the same text have the same outline: brackets stand
wherever leaving them out would let the text be taken for another expression.

The proof follows the tree. What is said of an expression is that it is read back in both places
where it can stand: alone, where a blank behind it would be taken for an operator, and as an operand,
where a dot behind it leads on to a member.
-/

set_option autoImplicit false

namespace JavaSyntax

/-! ## Laid out documents -/

/-- The measures and names with which documents are laid out. -/
structure Page where
  width : Nat
  level : Nat
  nameOf : Reference → String

namespace Page

/-- The characters of a document. -/
def chars (page : Page) (d : Doc) : List Char :=
  (Doc.write page.width page.level page.nameOf d).toList

variable (page : Page)

@[simp] theorem chars_nil : page.chars [] = [] := by simp [chars, Doc.write]

@[simp] theorem chars_append (c d : Doc) : page.chars (c ++ d) = page.chars c ++ page.chars d := by
  simp [chars, Doc.write_append]

@[simp] theorem chars_ofText (s : String) : page.chars (Doc.ofText s) = s.toList := by
  simp [chars, Doc.write, Doc.ofText, Piece.write]

@[simp] theorem chars_parens (d : Doc) : page.chars (Doc.parens d) = '(' :: page.chars d ++ [')'] := by
  have h : Doc.parens d = Doc.ofText "(" ++ d ++ Doc.ofText ")" := rfl
  simp [h]

end Page

/-- Documents, each behind a comma and a space. -/
def Doc.further (ds : List Doc) : Doc := ds.flatMap (Doc.ofText ", " ++ ·)

theorem Doc.commaSeparated_cons (d : Doc) (ds : List Doc) :
    Doc.commaSeparated (d :: ds) = d ++ Doc.further ds := by
  induction ds generalizing d with
  | nil => simp [Doc.commaSeparated, Doc.further]
  | cons d' ds ih =>
    have hcons : Doc.commaSeparated (d :: d' :: ds) =
        d ++ Doc.ofText ", " ++ Doc.commaSeparated (d' :: ds) := List.intercalate_cons_cons
    rw [hcons, ih]
    simp [Doc.further]

/-! ## Places of expressions -/

open Reader

/-- Whether an expression is read back, alone and as an operand. -/
structure Expr.ReadsAs (page : Page) (e : Expr) (o : Outline) : Prop where
  alone : ∀ {rest : List Char}, EndsExpr rest →
    Yields (expr · (page.chars e.doc ++ rest)) (o, rest)
  operand : ∀ {rest : List Char} {r : Outline × List Char}, EndsWord rest →
    Yields (selection · o rest) r →
      Yields (Reader.operand · (page.chars (e.operand e.doc) ++ rest)) r

namespace Expr

variable {page : Page} {e : Expr} {o : Outline} {rest : List Char}

/-- An expression that needs no brackets as an operand. -/
theorem ReadsAs.of_tight (htight : e.bindsLoosely = false)
    (h : ∀ {rest r}, EndsWord rest → Yields (selection · o rest) r →
      Yields (Reader.operand · (page.chars e.doc ++ rest)) r) : e.ReadsAs page o where
  alone hrest := yields_expr (h hrest.1.1 (yields_selection_end hrest.1)) (yields_operation_end hrest)
  operand hrest hr := by
    rw [Expr.operand, htight]
    exact h hrest hr

/-- An expression that stands in brackets as an operand. -/
theorem ReadsAs.of_loose (hloose : e.bindsLoosely = true)
    (h : ∀ {rest}, EndsExpr rest → Yields (expr · (page.chars e.doc ++ rest)) (o, rest)) :
    e.ReadsAs page o where
  alone := h
  operand {rest r} _ hr := by
    have hinner := yields_operand_brackets (h (endsExpr_closing rest)) hr
    rw [Expr.operand, hloose]
    simpa using hinner

/-- An operand from which nothing is selected. -/
theorem ReadsAs.operand_end (h : e.ReadsAs page o) (hrest : EndsOperand rest) :
    Yields (Reader.operand · (page.chars (e.operand e.doc) ++ rest)) (o, rest) :=
  h.operand hrest.1 (yields_selection_end hrest)

end Expr

/-! ## Forms -/

section Forms

variable {page : Page} {rest : List Char}

/-- A keyword that stands for an object. -/
theorem readsAs_word {e : Expr} {word : String} {o : Outline} (hword : IsWord word)
    (htight : e.bindsLoosely = false) (hdoc : e.doc = Doc.ofText word)
    (ho : Outline.ofWord none word = o) : e.ReadsAs page o := by
  refine .of_tight htight fun hrest hr => ?_
  rw [hdoc, page.chars_ofText]
  exact yields_operand_word hword (yields_member hword hrest (ho ▸ hr))

theorem readsAs_value {v : Value} {o : Outline} (h : v.outline? = some o) :
    (Expr.value v).ReadsAs page o := by
  cases v with
  | null =>
    cases h
    exact readsAs_word ⟨rfl, List.all_eq_true.1 rfl⟩ rfl rfl rfl
  | this =>
    cases h
    exact readsAs_word ⟨rfl, List.all_eq_true.1 rfl⟩ rfl rfl rfl
  | string text =>
    cases h
    refine .of_tight rfl fun _ hr => ?_
    rw [Expr.doc, Value.doc, page.chars_ofText]
    exact yields_string hr
  | literal | super | constant => cases h

theorem readsAs_ternary {c t f : Expr} {condition whenTrue whenFalse : Outline}
    (hc : c.ReadsAs page condition) (ht : t.ReadsAs page whenTrue) (hf : f.ReadsAs page whenFalse) :
    (Expr.ternary c t f).ReadsAs page (.ternary condition whenTrue whenFalse) := by
  refine .of_loose rfl fun {rest} hrest => ?_
  have hchoice := yields_ternary condition (ht.operand_end (endsOperand_blank _))
    (hf.operand_end hrest.1)
  have hall := yields_expr (hc.operand_end (endsOperand_blank _)) hchoice
  simpa [Expr.doc] using hall

theorem readsAs_comparison {operator : Comparison} {l r : Expr} {left right : Outline}
    (hl : l.ReadsAs page left) (hr : r.ReadsAs page right) :
    (Expr.comparison operator l r).ReadsAs page (.comparison operator left right) := by
  refine .of_loose rfl fun {rest} hrest => ?_
  have hright := yields_comparison operator left (hr.operand_end hrest.1)
  have hall := yields_expr (hl.operand_end (endsOperand_blank _)) hright
  simpa [Expr.doc] using hall

theorem readsAs_assignment {target : VariableExpr} {source : Expr} {place value : Outline}
    (ht : (Expr.var target).ReadsAs page place) (hs : source.ReadsAs page value) :
    (Expr.assignment target source).ReadsAs page (.assignment place value) := by
  refine .of_loose rfl fun {rest} hrest => ?_
  -- The source is no operand: it goes on as far as the assignment does.
  have hsource := yields_assignment place (hs.alone hrest)
  have hall := yields_expr (ht.operand_end (endsOperand_blank _)) hsource
  simpa [Expr.doc, Expr.operand, Expr.bindsLoosely] using hall

theorem Outline.ofWord_identifier (receiver : Option Outline) (identifier : Identifier) :
    Outline.ofWord receiver identifier.text = .use receiver identifier.text := by
  have hnull : identifier.text ≠ "null" := fun h => identifier.unreserved (by rw [h]; decide)
  have hthis : identifier.text ≠ "this" := fun h => identifier.unreserved (by rw [h]; decide)
  simp [Outline.ofWord, hnull, hthis]

/-- Whether a receiver and the member behind it are read back. -/
def Receiver.ReadsAs (page : Page) (receiver : Receiver) (o : Option Outline) : Prop :=
  ∀ {word : String} {rest : List Char} {r : Outline × List Char}, IsWord word →
    Yields (member · o (word.toList ++ rest)) r →
      Yields (Reader.operand · (page.chars receiver.doc ++ (word.toList ++ rest))) r

theorem readsAs_implicit : Receiver.implicit.ReadsAs page none := by
  intro word rest r hword h
  simpa [Receiver.doc] using yields_operand_word hword h

theorem readsAs_object {e : Expr} {o : Outline} (he : e.ReadsAs page o) :
    (Receiver.object e).ReadsAs page (some o) := by
  intro word rest r _ h
  simpa [Receiver.doc] using he.operand (endsWord_dot _) (yields_selection h)

theorem readsAs_use {v : Variable} {receiver : Receiver} {o : Option Outline}
    (hreceiver : receiver.ReadsAs page o) :
    (Expr.var (.use v receiver)).ReadsAs page (.use o v.name) := by
  refine .of_tight rfl fun {rest r} hrest hr => ?_
  have hword := isWord_identifier v.identifier
  rw [Variable.name, ← Outline.ofWord_identifier] at hr
  have hall := hreceiver hword (yields_member hword hrest hr)
  simpa [Expr.doc, VariableExpr.doc, VariableExpr.name, VariableExpr.toVariable, Variable.name]
    using hall

theorem readsAs_call {name : Identifier} {receiver : Receiver} {arguments : List Expr}
    {returnType : JavaType} {o : Option Outline} {os : List Outline}
    (hreceiver : receiver.ReadsAs page o)
    (harguments : ∀ rest, Yields (Reader.arguments ·
      (page.chars (Doc.commaSeparated (exprDocs arguments)) ++ ')' :: rest)) (os, rest)) :
    (Expr.call name receiver [] arguments returnType).ReadsAs page (.call o name.text os) := by
  refine .of_tight rfl fun {rest r} hrest hr => ?_
  have hword := isWord_identifier name
  have hall := hreceiver hword (yields_member_call hword (harguments rest) hr)
  simpa [Expr.doc, Layout.typeArguments] using hall

end Forms

/-! ## Trees -/

section Trees

variable (page : Page)

/-- What follows an argument cannot be taken for a part of it. -/
theorem endsExpr_further (ds : List Doc) (rest : List Char) :
    EndsExpr (page.chars (Doc.further ds) ++ ')' :: rest) := by
  cases ds with
  | nil => simpa [Doc.further] using endsExpr_closing rest
  | cons d ds => simpa [Doc.further] using endsExpr_comma _

mutual
theorem readsAs_outline : ∀ {e : Expr} {o : Outline}, e.outline? = some o → e.ReadsAs page o
  | .value v, _, h => readsAs_value h
  | .var v, _, h => readsAs_variable h
  | .ternary c t f, o, h => by
    obtain ⟨condition, hc, whenTrue, ht, whenFalse, hf, rfl⟩ := Expr.outline?_ternary.1 h
    exact readsAs_ternary (readsAs_outline hc) (readsAs_outline ht) (readsAs_outline hf)
  | .assignment target source, o, h => by
    obtain ⟨place, ht, value, hs, rfl⟩ := Expr.outline?_assignment.1 h
    exact readsAs_assignment (readsAs_variable ht) (readsAs_outline hs)
  | .comparison operator l r, o, h => by
    obtain ⟨left, hl, right, hr, rfl⟩ := Expr.outline?_comparison.1 h
    exact readsAs_comparison (readsAs_outline hl) (readsAs_outline hr)
  | .call name receiver [] as _, o, h => by
    obtain ⟨object, hreceiver, arguments, has, rfl⟩ := Expr.outline?_call.1 h
    exact readsAs_call (readsAs_receiver hreceiver) (yields_arguments has)
  | .call _ _ (_ :: _) _ _, _, h | .create .., _, h | .cast .., _, h | .instanceOf .., _, h
  | .anonymousClass .., _, h | .delegation .., _, h => nomatch h

theorem readsAs_receiver : ∀ {receiver : Receiver} {o : Option Outline},
    receiver.outline? = some o → receiver.ReadsAs page o
  | .implicit, _, rfl => readsAs_implicit
  | .object e, o, h => by
    obtain ⟨o, he, rfl⟩ := Receiver.outline?_object.1 h
    exact readsAs_object (readsAs_outline he)
  | .owner _, _, h => nomatch h

theorem readsAs_variable : ∀ {v : VariableExpr} {o : Outline},
    v.outline? = some o → (Expr.var v).ReadsAs page o
  | .declaration _, _, h => nomatch h
  | .use v receiver, o, h => by
    obtain ⟨object, hreceiver, rfl⟩ := VariableExpr.outline?_use.1 h
    exact readsAs_use (readsAs_receiver hreceiver)

theorem yields_arguments : ∀ {es : List Expr} {os : List Outline}, exprOutlines? es = some os →
    ∀ rest, Yields (Reader.arguments ·
      (page.chars (Doc.commaSeparated (exprDocs es)) ++ ')' :: rest)) (os, rest)
  | [], _, rfl, rest => by
    simpa [exprDocs, Doc.commaSeparated] using yields_arguments_nil
  | e :: es, os, h, rest => by
    obtain ⟨first, he, others, hes, rfl⟩ := exprOutlines?_cons.1 h
    have hfirst := (readsAs_outline he).alone (endsExpr_further page (exprDocs es) rest)
    have hall := yields_arguments_cons hfirst (yields_further hes rest)
    simpa [exprDocs, Doc.commaSeparated_cons] using hall

theorem yields_further : ∀ {es : List Expr} {os : List Outline}, exprOutlines? es = some os →
    ∀ rest, Yields (Reader.further ·
      (page.chars (Doc.further (exprDocs es)) ++ ')' :: rest)) (os, rest)
  | [], _, rfl, rest => by
    simpa [exprDocs, Doc.further] using yields_further_nil
  | e :: es, os, h, rest => by
    obtain ⟨first, he, others, hes, rfl⟩ := exprOutlines?_cons.1 h
    have hfirst := (readsAs_outline he).alone (endsExpr_further page (exprDocs es) rest)
    have hall := yields_further_cons hfirst (yields_further hes rest)
    simpa [exprDocs, Doc.further] using hall
end

end Trees

/-! ## Whole texts -/

/-- What a fresh writer writes for an expression is read back as the outline of the expression. -/
theorem Writer.yields_putExpr (options : WriterOptions) {e : Expr} {o : Outline}
    (h : e.outline? = some o) :
    Yields (Reader.expr · ((Writer.ofOptions options).putExpr e).buffer.toList) (o, []) := by
  let imports := (ImportTable.empty "").enterAll (Doc.references e.doc)
  let page : Page := { width := options.indentWidth, level := 0, nameOf := imports.nameOf }
  have hbuffer : ((Writer.ofOptions options).putExpr e).buffer.toList = page.chars e.doc ++ [] := by
    simp [Writer.putExpr, Writer.put, Writer.ofOptions, page, imports, Page.chars]
  rw [hbuffer]
  exact (readsAs_outline page h).alone endsExpr_nil

/-- Two expressions for which fresh writers write the same text have the same outline. -/
theorem Writer.outline_eq_of_putExpr_eq {options options' : WriterOptions} {e e' : Expr}
    (he : e.outline?.isSome) (he' : e'.outline?.isSome)
    (htext : ((Writer.ofOptions options).putExpr e).buffer =
      ((Writer.ofOptions options').putExpr e').buffer) :
    e.outline? = e'.outline? := by
  obtain ⟨o, ho⟩ := Option.isSome_iff_exists.1 he
  obtain ⟨o', ho'⟩ := Option.isSome_iff_exists.1 he'
  have hread := Writer.yields_putExpr options ho
  rw [htext] at hread
  have hsame := hread.unique (Writer.yields_putExpr options' ho')
  rw [ho, ho', (Prod.mk.inj hsame).1]

/-- No text shows what types the variables have: a call on the outcome of a choice is written with
the same brackets for integers and for long integers, and has the same outline. -/
theorem Writer.outline_eq_of_putExpr_eq_retyped :
    let named (text : Identifier) (p : Primitive) : Expr :=
      .var (.use ⟨text, .ofPrimitive p, rfl⟩ .implicit)
    let choice (p : Primitive) : Expr :=
      .ternary (.comparison .equal (named { text := "a" } p) (named { text := "b" } p))
        (.value (.string "(a")) (.value .null)
    let call (p : Primitive) : Expr :=
      .call { text := "charAt" } (.object (choice p)) [] [named { text := "c" } p] .void
    let text (p : Primitive) : String := ((Writer.ofOptions {}).putExpr (call p)).buffer
    text .int = "((a == b) ? \"(a\" : null).charAt(c)" ∧ text .int = text .long ∧
      (call .int).outline?.isSome ∧ (call .long).outline?.isSome ∧
      (call .int).outline? = (call .long).outline? := by
  intro named choice call text
  have htext : text .int = text .long := rfl
  exact ⟨by decide, htext, rfl, rfl, outline_eq_of_putExpr_eq rfl rfl htext⟩

end JavaSyntax
