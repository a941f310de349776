import JavaSyntax.Proofs.Imports.Declared
import JavaSyntax.Proofs.Imports.Registration

/-!
# Documents behind documents

Writing a document is writing its pieces one after the other, the name of a class being settled when
its turn comes. So whatever is written, a writer only extends: it adds text behind its own, takes
back no claim, line or reference, and keeps its options and its package.
-/

set_option autoImplicit false

namespace JavaSyntax

/-! ## Tables extend -/

namespace ImportTable

/-- What a table keeps when references are entered. -/
structure Extends (t u : ImportTable) : Prop where
  package : u.package = t.package
  claims : ∀ name meaning, t.meaning? name = some meaning → u.meaning? name = some meaning
  imports : ∀ line ∈ t.imports, line ∈ u.imports
  references : t.references <+: u.references

theorem Extends.refl (t : ImportTable) : t.Extends t :=
  ⟨rfl, fun _ _ h => h, fun _ h => h, List.prefix_refl _⟩

theorem Extends.trans {t u v : ImportTable} (h : t.Extends u) (h' : u.Extends v) : t.Extends v where
  package := h'.package.trans h.package
  claims name meaning hm := h'.claims name meaning (h.claims name meaning hm)
  imports line hline := h'.imports line (h.imports line hline)
  references := h.references.trans h'.references

theorem references_prefix_enter (t : ImportTable) (r : Reference) :
    t.references <+: (t.enter r).references := by
  cases h : r.isWildcard with
  | true => simp [enter, h]
  | false =>
    rw [references_enter h, record]
    split
    · exact List.prefix_refl _
    · exact List.prefix_append _ _

/-- Entering a reference extends a table. -/
theorem extends_enter (t : ImportTable) (r : Reference) : t.Extends (t.enter r) where
  package := package_enter t r
  claims _ _ hm := meaning?_enter_of_some hm
  imports line hline := by
    change line ∈ (t.run [.register r]).imports
    exact mem_imports_run.2 (.inl hline)
  references := references_prefix_enter t r

theorem enterAll_append (t : ImportTable) (rs rs' : List Reference) :
    t.enterAll (rs ++ rs') = (t.enterAll rs).enterAll rs' := List.foldl_append ..

/-- Entering references extends a table. -/
theorem extends_enterAll (t : ImportTable) (rs : List Reference) : t.Extends (t.enterAll rs) := by
  induction rs generalizing t with
  | nil => exact .refl t
  | cons r rs ih => exact (extends_enter t r).trans (ih _)

/-! ## Names are settled at once -/

/-- A class that has been entered is settled. -/
theorem isSettled_enterAll {t : ImportTable} {rs : List Reference} {r : Reference} (hr : r ∈ rs) :
    (t.enterAll rs).IsSettled r := by
  obtain ⟨before, after, rfl⟩ := List.append_of_mem hr
  rw [enterAll_eq_run, List.map_append, run_append]
  exact (isSettled_enter _ r).run _

/-- The name of a class that has been entered stays the same, whatever is entered later. -/
theorem nameOf_enterAll {t : ImportTable} {rs : List Reference} {r : Reference} (hr : r ∈ rs)
    (later : List Reference) :
    ((t.enterAll rs).enterAll later).nameOf r = (t.enterAll rs).nameOf r := by
  rw [enterAll_eq_run _ later]
  exact (isSettled_enterAll hr).nameOf_run _

end ImportTable

/-! ## Writers extend -/

namespace Doc

/-- The text of a document depends only on the names of the classes in it. -/
theorem write_congr {width level : Nat} {nameOf nameOf' : Reference → String} {d : Doc}
    (h : ∀ r ∈ references d, nameOf r = nameOf' r) :
    write width level nameOf d = write width level nameOf' d := by
  have hpieces :
      d.map (Piece.write width level nameOf) = d.map (Piece.write width level nameOf') := by
    refine List.map_congr_left fun p hp => ?_
    cases p with
    | name r => exact h r (List.mem_filterMap.2 ⟨_, hp, rfl⟩)
    | _ => rfl
  rw [write, write, hpieces]

end Doc

namespace Writer

/-- What a writer keeps when something is written. -/
structure Extends (w w' : Writer) : Prop where
  options : w'.options = w.options
  indentLevel : w'.indentLevel = w.indentLevel
  buffer : w.buffer.toList <+: w'.buffer.toList
  table : w.imports.Extends w'.imports

theorem Extends.refl (w : Writer) : w.Extends w := ⟨rfl, rfl, List.prefix_refl _, .refl _⟩

theorem Extends.trans {w w' w'' : Writer} (h : w.Extends w') (h' : w'.Extends w'') :
    w.Extends w'' where
  options := h'.options.trans h.options
  indentLevel := h'.indentLevel.trans h.indentLevel
  buffer := h.buffer.trans h'.buffer
  table := h.table.trans h'.table

/-- Writing one document behind another is writing first the one and then the other. -/
theorem put_append (w : Writer) (c d : Doc) : w.put (c ++ d) = (w.put c).put d := by
  -- The classes of the second document are entered too late to change a name in the first.
  have hnames : ∀ r ∈ Doc.references c,
      ((w.imports.enterAll (Doc.references c)).enterAll (Doc.references d)).nameOf r
        = (w.imports.enterAll (Doc.references c)).nameOf r :=
    fun r hr => ImportTable.nameOf_enterAll hr _
  simp only [put, Doc.references_append, ImportTable.enterAll_append, Doc.write_append,
    Doc.write_congr hnames, String.append_assoc]

theorem put_nil (w : Writer) : w.put [] = w := by
  simp [put, ImportTable.enterAll, Doc.write, Doc.references]

/-- Writing one piece extends a writer. -/
theorem extends_put_piece (w : Writer) (p : Piece) : w.Extends (w.put [p]) where
  options := rfl
  indentLevel := rfl
  buffer := by simp [put]
  table := ImportTable.extends_enterAll _ _

/-- Writing a document, piece by piece, extends a writer. -/
theorem extends_put (w : Writer) (d : Doc) : w.Extends (w.put d) := by
  induction d generalizing w with
  | nil => exact w.put_nil.symm ▸ .refl w
  | cons p d ih =>
    rw [← List.singleton_append, put_append]
    exact (w.extends_put_piece p).trans (ih _)

/-- A class is written by the name that registering it returns. -/
theorem put_name (w : Writer) (r : Reference) :
    w.put [.name r] = { (w.register r).2 with buffer := w.buffer ++ (w.register r).1 } := by
  simp [put, register, Doc.references, Doc.write, Piece.reference?, ImportTable.enterAll,
    Piece.write, ImportTable.register]

/-- A piece that names no class only adds its text. -/
theorem put_unnamed (w : Writer) {p : Piece} (h : p.reference? = none) :
    w.put [p] = { w with
      buffer := w.buffer ++ p.write w.options.indentWidth w.indentLevel w.imports.nameOf } := by
  have hnone : Doc.references [p] = [] := by simp [Doc.references, h]
  simp [put, hnone, ImportTable.enterAll, Doc.write]

end Writer

/-! ## Statements behind statements -/

theorem statementsDoc_append (a b : List Statement) :
    statementsDoc (a ++ b) = statementsDoc a ++ statementsDoc b := by
  induction a with
  | nil => rfl
  | cons s a ih => simp only [List.cons_append, statementsDoc, ih, List.append_assoc]

namespace Writer

theorem putBody_append (w : Writer) (a b : List Statement) :
    w.putBody (a ++ b) = (w.putBody a).putBody b := by
  rw [putBody, statementsDoc_append, put_append]
  rfl

/-- What is written of the first statements does not depend on the statements behind them. -/
theorem writeStatements_append (w : Writer) (a b : List Statement) :
    (w.writeStatements a).1.source.toList <+: (w.writeStatements (a ++ b)).1.source.toList ∧
    (∀ line ∈ (w.writeStatements a).1.imports, line ∈ (w.writeStatements (a ++ b)).1.imports) ∧
    (w.writeStatements a).2.imports.references
      <+: (w.writeStatements (a ++ b)).2.imports.references := by
  have hpage := ((w.reset (ImportTable.empty "")).putBody a).extends_put (statementsDoc b)
  have happend := (w.reset (ImportTable.empty "")).putBody_append a b
  rw [writeStatements, writeStatements, happend]
  exact ⟨hpage.buffer, hpage.table.imports, hpage.table.references⟩

end Writer

end JavaSyntax
