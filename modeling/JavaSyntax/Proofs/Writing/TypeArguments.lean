import JavaSyntax.Proofs.Trees.Mentions
import JavaSyntax.Proofs.Writing.Emission

/-!
# Explicit type arguments

The type arguments of a call are written one after the other, each by the name of its class alone. A
declaration would write them with their own type arguments. The two are the same exactly if none of
them has any; then all classes among them are recorded. If one has, they differ in the text: where
a call goes on with a comma or ends, a declaration opens angle brackets.
-/

set_option autoImplicit false

namespace JavaSyntax

/-! ## Classes that have been met -/

namespace ImportTable

variable {t u : ImportTable} {r : Reference}

theorem HasMet.of_extends (h : t.HasMet r) (hext : t.Extends u) : u.HasMet r :=
  List.map_subset _ hext.references.subset h

theorem hasMet_enterAll {rs : List Reference} (hr : r ∈ rs) (h : r.isWildcard = false) :
    (t.enterAll rs).HasMet r := by
  obtain ⟨before, after, rfl⟩ := List.append_of_mem hr
  rw [enterAll_append]
  exact (hasMet_enter _ h).of_extends (extends_enterAll _ after)

end ImportTable

/-! ## Documents of references -/

namespace Doc

theorem doc_ofReference (r : Reference) : (JavaType.ofReference r).doc = r.doc :=
  List.append_nil _

theorem rawDoc_ofReference (r : Reference) : (JavaType.ofReference r).rawDoc = [.name r] := rfl

/-- A reference without type arguments is written the same as a type and by its name. -/
theorem doc_eq_rawDoc {r : Reference} (h : r.arguments = []) :
    (JavaType.ofReference r).doc = (JavaType.ofReference r).rawDoc := by
  rw [doc_ofReference, rawDoc_ofReference, r.doc_eq, h]
  rfl

/-- Commas name nothing. -/
theorem references_commaSeparated (ds : List Doc) :
    references (commaSeparated ds) = ds.flatMap references := by
  induction ds with
  | nil => rfl
  | cons d ds ih =>
    cases ds with
    | nil => simp [commaSeparated]
    | cons e ds =>
      rw [commaSeparated, List.intercalate_cons_cons, references_append, references_append]
      rw [commaSeparated] at ih
      rw [ih, List.flatMap_cons, List.append_assoc]
      rfl

end Doc

namespace Writer

/-! ## Documents behind documents -/

/-- Writes documents one after the other, with a comma and a space between them. -/
def putSeparated (w : Writer) : List Doc → Writer
  | [] => w
  | [d] => w.put d
  | d :: e :: ds => putSeparated ((w.put d).put (Doc.ofText ", ")) (e :: ds)

theorem put_commaSeparated (w : Writer) (ds : List Doc) :
    w.put (Doc.commaSeparated ds) = w.putSeparated ds := by
  fun_induction w.putSeparated ds with
  | case1 w => exact w.put_nil
  | case2 w d => simp [Doc.commaSeparated]
  | case3 w d e ds ih =>
    rw [← ih, Doc.commaSeparated, List.intercalate_cons_cons, put_append, put_append]
    rfl

theorem extends_putSeparated (w : Writer) (ds : List Doc) : w.Extends (w.putSeparated ds) :=
  w.put_commaSeparated ds ▸ w.extends_put _

/-- What extends a text that has just been written goes on behind it. -/
theorem buffer_of_extends_ofText {w w' : Writer} {text : String}
    (h : (w.put (Doc.ofText text)).Extends w') :
    ∃ rest, w'.buffer.toList = w.buffer.toList ++ (text.toList ++ rest) := by
  obtain ⟨rest, hrest⟩ := h.buffer
  refine ⟨rest, ?_⟩
  rw [← hrest]
  simp [put, Doc.write, Doc.ofText, Piece.write]

/-! ## Type arguments of a call -/

/-- Writes references as a call writes its type arguments. -/
def putNames (w : Writer) (gs : List Reference) : Writer :=
  w.putSeparated (gs.map fun g => (JavaType.ofReference g).rawDoc)

/-- Writes references as a declaration writes type arguments. -/
def putTypes (w : Writer) (gs : List Reference) : Writer :=
  w.putSeparated (gs.map fun g => (JavaType.ofReference g).doc)

theorem putNames_cons_cons (w : Writer) (g g' : Reference) (gs : List Reference) :
    w.putNames (g :: g' :: gs)
      = ((w.put [.name g]).put (Doc.ofText ", ")).putNames (g' :: gs) := rfl

theorem putTypes_cons_cons (w : Writer) (g g' : Reference) (gs : List Reference) :
    w.putTypes (g :: g' :: gs)
      = ((w.put (JavaType.ofReference g).doc).put (Doc.ofText ", ")).putTypes (g' :: gs) := rfl

theorem putNames_eq_putTypes (w : Writer) {gs : List Reference}
    (h : ∀ g ∈ gs, g.arguments = []) : w.putNames gs = w.putTypes gs := by
  rw [putNames, putTypes, List.map_congr_left fun g hg => Doc.doc_eq_rawDoc (h g hg)]

/-- Behind the name of the first reference, a call ends or goes on with a comma. -/
theorem buffer_putNames_cons (w : Writer) (g : Reference) (gs : List Reference) :
    (w.putNames (g :: gs)).buffer = (w.put [.name g]).buffer ∨
      ∃ rest, (w.putNames (g :: gs)).buffer.toList
        = (w.put [.name g]).buffer.toList ++ ',' :: rest := by
  cases gs with
  | nil => exact .inl rfl
  | cons g' gs =>
    rw [putNames_cons_cons]
    obtain ⟨rest, hrest⟩ := buffer_of_extends_ofText (extends_putSeparated _ _)
    exact .inr ⟨' ' :: rest, hrest⟩

/-- Behind the name of the first reference, a declaration goes on with the type arguments. -/
theorem buffer_putTypes_cons (w : Writer) {g : Reference} (h : g.arguments ≠ [])
    (gs : List Reference) :
    ∃ rest, (w.putTypes (g :: gs)).buffer.toList
      = (w.put [.name g]).buffer.toList ++ '<' :: rest := by
  obtain ⟨a, as, has⟩ := List.exists_cons_of_ne_nil h
  have hdoc : (JavaType.ofReference g).doc
      = [.name g] ++ (Doc.ofText "<" ++ (a.doc ++ Reference.furtherDoc as ++ [.text ">"])) := by
    rw [Doc.doc_ofReference]
    cases g <;> obtain rfl : _ = a :: as := has <;> rfl
  have hfirst : (w.put (JavaType.ofReference g).doc).Extends (w.putTypes (g :: gs)) := by
    cases gs with
    | nil => exact .refl _
    | cons g' gs =>
      rw [putTypes_cons_cons]
      exact (extends_put _ _).trans (extends_putSeparated _ _)
  rw [hdoc, put_append, put_append] at hfirst
  obtain ⟨rest, hrest⟩ := buffer_of_extends_ofText ((extends_put _ _).trans hfirst)
  exact ⟨rest, hrest⟩

/-- The first reference with type arguments of its own tells the two ways apart. -/
theorem arguments_eq_nil_of_buffer_eq {w : Writer} {gs : List Reference}
    (h : (w.putNames gs).buffer = (w.putTypes gs).buffer) : ∀ g ∈ gs, g.arguments = [] := by
  induction gs generalizing w with
  | nil => exact fun _ hg => absurd hg List.not_mem_nil
  | cons g gs ih =>
    have hg : g.arguments = [] := by
      by_contra hne
      obtain ⟨rest, hfull⟩ := w.buffer_putTypes_cons hne gs
      rw [← h] at hfull
      rcases w.buffer_putNames_cons g gs with hend | ⟨rest', hcomma⟩
      · simp [hend] at hfull
      · simp [hcomma] at hfull
    refine List.forall_mem_cons.2 ⟨hg, ?_⟩
    cases gs with
    | nil => exact fun _ hg => absurd hg List.not_mem_nil
    | cons g' gs =>
      rw [putNames_cons_cons, putTypes_cons_cons, Doc.doc_eq_rawDoc hg] at h
      exact ih h

/-- A call writes its receiver, its type arguments by name, its own name and its arguments. -/
theorem putExpr_call {receiver : Receiver} (hreceiver : receiver.isImplicit = false)
    {gs : List Reference} (hgs : gs ≠ []) (w : Writer) (name : Identifier) (as : List Expr)
    (type : JavaType) :
    w.putExpr (.call name receiver gs as type)
      = (((w.put (receiver.doc ++ Doc.ofText "<")).putNames gs).put
          (Doc.ofText ">" ++ Doc.ofText name.text)).putArguments as := by
  let names : Doc := Doc.commaSeparated (gs.map fun g => (JavaType.ofReference g).rawDoc)
  have htypes : Layout.typeArguments gs = Doc.ofText "<" ++ names ++ Doc.ofText ">" := by
    rw [Layout.typeArguments, if_neg (by simpa using hgs)]
    rfl
  have hdoc : (Expr.call name receiver gs as type).doc
      = receiver.doc ++ Doc.ofText "<" ++ names ++ (Doc.ofText ">" ++ Doc.ofText name.text)
        ++ argumentsDoc as := by
    simp only [Expr.doc, hreceiver, htypes, argumentsDoc, List.append_assoc, Bool.false_eq_true,
      if_false]
  rw [putExpr, hdoc, put_append w _ (argumentsDoc as), put_append w _ (_ ++ _),
    put_append w _ names, put_commaSeparated]
  rfl

theorem hasMet_putNames (w : Writer) {gs : List Reference} {g : Reference} (hg : g ∈ gs)
    (h : g.isWildcard = false) : (w.putNames gs).imports.HasMet g := by
  have hnames : Doc.references
      (Doc.commaSeparated (gs.map fun g => (JavaType.ofReference g).rawDoc)) = gs := by
    rw [Doc.references_commaSeparated, List.flatMap_map]
    exact List.flatMap_singleton' gs
  rw [putNames, ← put_commaSeparated, put, hnames]
  exact ImportTable.hasMet_enterAll hg h

/-- References without type arguments mention nothing but themselves. -/
theorem mem_of_mem_allMentions {gs : List Reference} (h : ∀ g ∈ gs, g.arguments = [])
    {r : Reference} (hr : r ∈ Reference.allMentions gs) : r ∈ gs := by
  induction gs with
  | nil => exact hr
  | cons g gs ih =>
    obtain ⟨hg, hgs⟩ := List.forall_mem_cons.1 h
    rw [Reference.allMentions, g.mentions_eq, hg] at hr
    rcases List.mem_cons.1 hr with rfl | hr
    · exact List.mem_cons_self
    · exact List.mem_cons_of_mem _ (ih hgs hr)

/-- The type arguments of a call on an object or class are written by their names. The text is the one
that a declaration would have exactly if none of them has type arguments of its own, and then
everything that they mention is recorded. -/
theorem putExpr_call_typeArguments {receiver : Receiver} (hreceiver : receiver.isImplicit = false)
    {gs : List Reference} (hgs : gs ≠ []) (w : Writer) (name : Identifier) (as : List Expr)
    (type : JavaType) :
    let before := w.put (receiver.doc ++ Doc.ofText "<")
    let ending := Doc.ofText ">" ++ Doc.ofText name.text
    let after := w.putExpr (.call name receiver gs as type)
    after = ((before.putNames gs).put ending).putArguments as ∧
      ((before.putNames gs).buffer = (before.putTypes gs).buffer ↔ ∀ g ∈ gs, g.arguments = []) ∧
      ((∀ g ∈ gs, g.arguments = []) →
        after = ((before.putTypes gs).put ending).putArguments as ∧
        ∀ r ∈ Reference.allMentions gs, r.isWildcard = false → after.imports.HasMet r) := by
  intro before ending after
  have hafter : after = ((before.putNames gs).put ending).putArguments as :=
    putExpr_call hreceiver hgs w name as type
  refine ⟨hafter, ⟨arguments_eq_nil_of_buffer_eq, fun hflat => ?_⟩, fun hflat => ⟨?_, ?_⟩⟩
  · rw [putNames_eq_putTypes before hflat]
  · rw [hafter, putNames_eq_putTypes before hflat]
  · intro r hr h
    have hmet := before.hasMet_putNames (mem_of_mem_allMentions hflat hr) h
    rw [hafter]
    exact hmet.of_extends ((extends_put _ ending).trans (extends_put _ _)).table

/-- An empty list of strings. -/
theorem putExpr_call_typeArguments_flat :
    let util (name : Identifier) : Reference := .compiled (.javaUtil name) [] [] false
    let string : Reference := .compiled .string [] [] false
    let collections : Receiver := .owner (util { text := "Collections" })
    let call : Expr :=
      .call { text := "emptyList" } collections [string] [] (.ofReference (util { text := "List" }))
    let after := (ofOptions {}).putExpr call
    after.buffer = "Collections.<String>emptyList()" ∧ after.imports.HasMet string := by
  intro util string collections call after
  have hreceiver : collections.isImplicit = false := rfl
  obtain ⟨-, -, hfull⟩ := putExpr_call_typeArguments hreceiver (List.cons_ne_nil string [])
    (ofOptions {}) { text := "emptyList" } [] (.ofReference (util { text := "List" }))
  have hflat : ∀ g ∈ [string], g.arguments = [] := List.forall_mem_singleton.2 rfl
  exact ⟨by decide +kernel, (hfull hflat).2 string List.mem_cons_self rfl⟩

/-- An empty list of lists of strings: the call does not tell of what the lists are, and the strings
are not recorded. -/
theorem putExpr_call_typeArguments_nested :
    let util (name : Identifier) (arguments : List Reference) : Reference :=
      .compiled (.javaUtil name) arguments [] false
    let string : Reference := .compiled .string [] [] false
    let strings := util { text := "List" } [string]
    let collections : Receiver := .owner (util { text := "Collections" } [])
    let call : Expr :=
      .call { text := "emptyList" } collections [strings] []
        (.ofReference (util { text := "List" } []))
    let before := (ofOptions {}).put (collections.doc ++ Doc.ofText "<")
    let after := (ofOptions {}).putExpr call
    after.buffer = "Collections.<List>emptyList()" ∧
      (before.putTypes [strings]).buffer = "Collections.<List<String>" ∧
      ¬after.imports.HasMet string := by
  intro util string strings collections call before after
  exact ⟨by decide +kernel, by decide +kernel, by decide +kernel⟩

end Writer

end JavaSyntax
