import JavaSyntax.Proofs.Trees.Layout
import JavaSyntax.Proofs.Writing.Emission

/-!
# Equal trees are written alike

Two tables that have met interchangeable references, in the same order, hold the same claims and
lines, and call every class by the same name. So documents that agree are written alike, and with
them trees that are equal and mention classes that are imported alike.
-/

set_option autoImplicit false

namespace JavaSyntax

/-! ## No table tells interchangeable references apart -/

namespace Reference.Interchangeable

variable {r s : Reference}

theorem className?_eq (h : r.Interchangeable s) : r.className? = s.className? :=
  (beq_iff.1 h.equal).1

theorem isWildcard_eq (h : r.Interchangeable s) : r.isWildcard = s.isWildcard := by
  rw [isWildcard, isWildcard, h.className?_eq]

theorem packageName_eq (h : r.Interchangeable s) : r.packageName = s.packageName := by
  rw [packageName, packageName, h.className?_eq]

theorem fullName_eq (h : r.Interchangeable s) : r.fullName = s.fullName :=
  fullName_eq_of_beq h.equal

theorem shortName_eq (h : r.Interchangeable s) : r.shortName = s.shortName :=
  shortName_congr h.className?_eq h.isStaticImport

theorem binding_eq (h : r.Interchangeable s) : r.binding = s.binding :=
  binding_congr h.className?_eq h.isStaticImport

theorem importKey?_eq (h : r.Interchangeable s) : r.importKey? = s.importKey? := by
  have harguments := (forall₂_of_beq (beq_iff.1 h.equal).2).length_eq
  rw [importKey?, importKey?, h.className?_eq, harguments]

end Reference.Interchangeable

/-! ## Tables that agree -/

namespace ImportTable

/-- Tables that are the same up to interchangeable references. -/
structure Agrees (t u : ImportTable) : Prop where
  package : t.package = u.package
  references : List.Forall₂ Reference.Interchangeable t.references u.references
  claims : t.claims = u.claims
  imports : t.imports = u.imports

theorem Agrees.refl (t : ImportTable) : t.Agrees t :=
  ⟨rfl, List.forall₂_same.2 fun r _ => ⟨r.beq_self, rfl⟩, rfl, rfl⟩

variable {t u : ImportTable} {r s : Reference}

theorem Agrees.meaning?_eq (h : t.Agrees u) (name : String) :
    t.meaning? name = u.meaning? name := by
  rw [meaning?, meaning?, h.claims]

theorem Agrees.importLine?_eq (h : t.Agrees u) (hrs : r.Interchangeable s) :
    t.importLine? r = u.importLine? s := by
  rw [importLine?, importLine?, hrs.isStaticImport, hrs.binding_eq, hrs.packageName_eq, h.package]

theorem Agrees.nameOf_eq (h : t.Agrees u) (hrs : r.Interchangeable s) :
    t.nameOf r = u.nameOf s := by
  rw [nameOf, nameOf, h.meaning?_eq, hrs.binding_eq, hrs.shortName_eq, hrs.fullName_eq]

theorem Agrees.claim (h : t.Agrees u) (b : Binding) : (t.claim b).Agrees (u.claim b) := by
  rw [ImportTable.claim, ImportTable.claim, h.meaning?_eq]
  split
  · exact h
  · exact { h with claims := congrArg (b :: ·) h.claims }

/-- Interchangeable references have been met by both tables or by neither. -/
theorem Agrees.record (h : t.Agrees u) (hrs : r.Interchangeable s) :
    (t.record r).Agrees (u.record s) := by
  have hkeys : t.references.map (·.importKey?) = u.references.map (·.importKey?) := by
    rw [← List.forall₂_eq_eq_eq]
    exact forall₂_map (h.references.imp fun _ _ hr => hr.importKey?_eq)
  rw [ImportTable.record, ImportTable.record, hkeys, hrs.importKey?_eq]
  split
  · exact h
  · exact { h with references := List.rel_append h.references (.cons hrs .nil) }

/-- Entering interchangeable references keeps tables in agreement. -/
theorem Agrees.enter (h : t.Agrees u) (hrs : r.Interchangeable s) :
    (t.enter r).Agrees (u.enter s) := by
  rw [ImportTable.enter, ImportTable.enter, hrs.isWildcard_eq, hrs.binding_eq, h.meaning?_eq,
    h.importLine?_eq hrs, h.imports]
  split
  · exact h
  · split
    · exact h.record hrs
    · exact { (h.record hrs).claim s.binding with imports := rfl }

theorem Agrees.enterAll {rs ss : List Reference} (h : t.Agrees u)
    (hrs : List.Forall₂ Reference.Interchangeable rs ss) :
    (t.enterAll rs).Agrees (u.enterAll ss) := by
  induction hrs generalizing t u with
  | nil => exact h
  | cons hr _ ih => exact ih (h.enter hr)

end ImportTable

/-! ## Documents that agree are written alike -/

namespace Doc.Agrees

variable {d d' : Doc}

theorem references (h : Agrees d d') :
    List.Forall₂ Reference.Interchangeable (Doc.references d) (Doc.references d') := by
  induction h with
  | nil => exact .nil
  | cons hp _ ih =>
    cases hp with
    | margin | text | newline => exact ih
    | name hr => exact .cons hr ih

theorem write_eq (h : Agrees d d') {t u : ImportTable} (htables : t.Agrees u) (width level : Nat) :
    Doc.write width level t.nameOf d = Doc.write width level u.nameOf d' := by
  have hpieces : d.map (Piece.write width level t.nameOf)
      = d'.map (Piece.write width level u.nameOf) := by
    rw [← List.forall₂_eq_eq_eq]
    refine forall₂_map (h.imp fun p q hp => ?_)
    cases hp with
    | margin | text | newline => rfl
    | name hr => exact htables.nameOf_eq hr
  rw [Doc.write, Doc.write, hpieces]

end Doc.Agrees

/-! ## Pages that agree -/

namespace Writer

mutual
/-- The simple names that a class reserves are read off its headings, which equal classes share. -/
theorem reserveNames_eq_of_same : ∀ (c c' : ClassDefinition), c.same c' = true →
    ∀ (t : ImportTable) (package : String), reserveNames t package c = reserveNames t package c'
  | ⟨h, ss, ms, nested⟩, ⟨h', ss', ms', nested'⟩, hsame, t, package => by
    simp only [ClassDefinition.same, Bool.and_eq_true] at hsame
    obtain ⟨-, -, -, -, hidentifier, -⟩ := ClassHeader.beq_iff.1 hsame.1.1.1
    rw [reserveNames, reserveNames, hidentifier]
    exact reserveAllNames_eq_of_same nested nested' hsame.2 _ _

theorem reserveAllNames_eq_of_same : ∀ (cs cs' : List ClassDefinition),
    ClassDefinition.sameNested cs cs' = true → ∀ (t : ImportTable) (package : String),
    reserveAllNames t package cs = reserveAllNames t package cs'
  | [], cs', h, t, package => by
    cases cs' with
    | nil => rfl
    | cons c' cs' => simp [ClassDefinition.sameNested] at h
  | c :: cs, cs', h, t, package => by
    cases cs' with
    | nil => simp [ClassDefinition.sameNested] at h
    | cons c' cs' =>
      simp only [ClassDefinition.sameNested, Bool.and_eq_true] at h
      rw [reserveAllNames, reserveAllNames, reserveNames_eq_of_same c c' h.1]
      exact reserveAllNames_eq_of_same cs cs' h.2 _ _
end

/-- Writers with the same text whose tables agree. -/
structure Agrees (w w' : Writer) : Prop where
  options : w.options = w'.options
  table : w.imports.Agrees w'.imports
  buffer : w.buffer = w'.buffer
  indentLevel : w.indentLevel = w'.indentLevel

theorem Agrees.refl (w : Writer) : w.Agrees w := ⟨rfl, .refl _, rfl, rfl⟩

variable {w w' : Writer}

/-- Writing documents that agree keeps writers in agreement. -/
theorem Agrees.put (h : w.Agrees w') {d d' : Doc} (hd : Doc.Agrees d d') :
    (w.put d).Agrees (w'.put d') where
  options := h.options
  table := h.table.enterAll hd.references
  buffer := by
    simp only [Writer.put]
    rw [h.options, h.indentLevel, h.buffer, hd.write_eq (h.table.enterAll hd.references)]
  indentLevel := h.indentLevel

/-- What is taken off pages that agree is the same. -/
theorem Agrees.take_eq (h : w.Agrees w') (package : Option String) :
    (w.take package).1 = (w'.take package).1 := by
  rw [take, take, h.table.imports, h.buffer]

/-- Tables that agree have met equal references. -/
theorem Agrees.references_beq (h : w.Agrees w') :
    (w.imports.references == w'.imports.references) = true :=
  beq_of_forall₂ (h.table.references.imp fun _ _ hr => hr.equal)

/-- Equal trees are written alike if the classes that they mention are imported alike. -/
theorem write_eq_of_beq (w : Writer) :
    (∀ a b : ClassDefinition, (a == b) = true →
      a.mentions.map (·.isStaticImport) = b.mentions.map (·.isStaticImport) →
      (w.writeClass a).1 = (w.writeClass b).1 ∧
      ((w.writeClass a).2.imports.references == (w.writeClass b).2.imports.references) = true) ∧
    ∀ as bs : List Statement, (as == bs) = true →
      (statementsMentions as).map (·.isStaticImport)
        = (statementsMentions bs).map (·.isStaticImport) →
      (w.writeStatements as).1 = (w.writeStatements bs).1 ∧
      ((w.writeStatements as).2.imports.references
        == (w.writeStatements bs).2.imports.references) = true := by
  refine ⟨fun a b hab halike => ?_, fun as bs hab halike => ?_⟩
  · have hdoc := (Doc.agrees_class a b hab).of_alike halike
    have hpackage : a.packageName = b.packageName :=
      ClassDefinition.packageName_eq_of_beq hab
    have hpage := (Agrees.refl
      (w.reset (reserveNames (ImportTable.empty a.packageName) a.packageName a))).put hdoc
    rw [writeClass, writeClass, packageOf, packageOf, ← hpackage, ← reserveNames_eq_of_same a b hab]
    exact ⟨hpage.take_eq _, hpage.references_beq⟩
  · have hdoc := (Doc.agrees_statements as bs (sameStatements_eq_beq as bs ▸ hab)).of_alike halike
    have hpage := (Agrees.refl (w.reset (ImportTable.empty ""))).put hdoc
    exact ⟨hpage.take_eq _, hpage.references_beq⟩

/-- It does not show whether the supertypes of a class are listed or inherited from a parent. -/
theorem write_eq_of_beq_supertypes :
    let base (name : Identifier) : ClassName :=
      { package := [{ text := "com" }], enclosing := [], name := name }
    let arguments : List Reference := [.compiled (base { text := "Item" }) [] [] true]
    let listed : Reference :=
      .compiled (base { text := "Base" }) arguments ["com.Root", "java.lang.Object"] false
    let inherited : Reference := .generated (base { text := "Base" }) arguments none false
    let extending (r : Reference) : ClassDefinition :=
      { header :=
          { comments := [], annotations := [], placement := .topLevel [{ text := "org" }]
            modifiers := {}, identifier := { text := "Sample" }, superclass := some r
            interfaces := [] }
        statements := []
        methods := []
        nested := [] }
    let creating (r : Reference) : List Statement := [.expression (.create r [] false)]
    let w := ofOptions {}
    listed.ancestors ≠ inherited.ancestors ∧
      (w.writeClass (extending listed)).1 = (w.writeClass (extending inherited)).1 ∧
      (w.writeStatements (creating listed)).1 = (w.writeStatements (creating inherited)).1 := by
  intro base arguments listed inherited extending creating w
  have hclasses : (extending listed == extending inherited) = true := rfl
  have hstatements : (creating listed == creating inherited) = true := by
    rw [← sameStatements_eq_beq]
    simp only [creating, sameStatements, Statement.same, Expr.same, sameExprs]
    rfl
  obtain ⟨hclass, hstatement⟩ := write_eq_of_beq w
  exact ⟨by decide, (hclass _ _ hclasses rfl).1, (hstatement _ _ hstatements rfl).1⟩

end Writer

end JavaSyntax
