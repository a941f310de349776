import JavaSyntax.Layout.Tree
import JavaSyntax.Proofs.Types.Equality
import JavaSyntax.ClassDefinition.Basic
import Mathlib.Data.List.Forall2

/-!
# What equal trees have in common

Equal trees have equal parts in the same places. Parts without references are then the same; parts
with references are equal as references are, and may differ in what is known of supertypes.
-/

set_option autoImplicit false

namespace JavaSyntax

/-- Equal lists are equal at every position. -/
theorem forall₂_of_beq {α : Type} [BEq α] {xs ys : List α} (h : (xs == ys) = true) :
    List.Forall₂ (fun x y => (x == y) = true) xs ys := by
  induction xs generalizing ys with
  | nil =>
    cases ys with
    | nil => exact .nil
    | cons y ys => cases h
  | cons x xs ih =>
    cases ys with
    | nil => cases h
    | cons y ys =>
      rw [List.cons_beq_cons, Bool.and_eq_true] at h
      exact .cons h.1 (ih h.2)

theorem beq_of_forall₂ {α : Type} [BEq α] {xs ys : List α}
    (h : List.Forall₂ (fun x y => (x == y) = true) xs ys) : (xs == ys) = true := by
  induction h with
  | nil => rfl
  | cons hx _ ih => rw [List.cons_beq_cons, hx, ih]; rfl

/-! ## Headings -/

theorem Annotation.beq_iff {a b : Annotation} :
    (a == b) = true ↔ (a.type == b.type) = true ∧ a.description = b.description := by
  cases a; cases b
  change (_ && _) = true ↔ _
  simp only [Bool.and_eq_true, beq_iff_eq]

theorem Variable.beq_iff {v w : Variable} :
    (v == w) = true ↔ v.identifier = w.identifier ∧ (v.type == w.type) = true := by
  change (_ && _) = true ↔ _
  simp only [Bool.and_eq_true, beq_iff_eq]

theorem Declaration.beq_iff {d e : Declaration} :
    (d == e) = true ↔ (d.toVariable == e.toVariable) = true ∧
      (d.annotations == e.annotations) = true ∧ d.access = e.access ∧ d.isStatic = e.isStatic ∧
      d.isFinal = e.isFinal := by
  cases d; cases e
  change (_ && (_ && (_ && (_ && _)))) = true ↔ _
  simp only [Bool.and_eq_true, beq_iff_eq]

theorem MethodHeader.beq_iff {h k : MethodHeader} :
    (h == k) = true ↔ h.comments = k.comments ∧ (h.annotations == k.annotations) = true ∧
      h.modifiers = k.modifiers ∧ h.isConstructor = k.isConstructor ∧
      (h.returnType == k.returnType) = true ∧ h.identifier = k.identifier ∧
      (h.parameters == k.parameters) = true ∧ (h.exceptions == k.exceptions) = true := by
  cases h; cases k
  change (_ && (_ && (_ && (_ && (_ && (_ && (_ && _))))))) = true ↔ _
  simp only [Bool.and_eq_true, beq_iff_eq]

theorem ClassHeader.beq_iff {h k : ClassHeader} :
    (h == k) = true ↔ h.comments = k.comments ∧ (h.annotations == k.annotations) = true ∧
      h.placement = k.placement ∧ h.modifiers = k.modifiers ∧ h.identifier = k.identifier ∧
      (h.superclass == k.superclass) = true ∧ (h.interfaces == k.interfaces) = true := by
  cases h; cases k
  change (_ && (_ && (_ && (_ && (_ && (_ && _)))))) = true ↔ _
  simp only [Bool.and_eq_true, beq_iff_eq]

/-! ## Trees -/

theorem sameStatements_eq_beq (ss ss' : List Statement) : sameStatements ss ss' = (ss == ss') := by
  induction ss generalizing ss' with
  | nil => cases ss' <;> simp [sameStatements]
  | cons s ss ih =>
    cases ss' with
    | nil => simp [sameStatements]
    | cons s' ss' => rw [sameStatements, ih, List.cons_beq_cons]; rfl

theorem sameMethods_eq_beq (ms ms' : List Method) : sameMethods ms ms' = (ms == ms') := by
  induction ms generalizing ms' with
  | nil => cases ms' <;> simp [sameMethods]
  | cons m ms ih =>
    cases ms' with
    | nil => simp [sameMethods]
    | cons m' ms' => rw [sameMethods, ih, List.cons_beq_cons]; rfl

theorem ClassDefinition.packageName_eq_of_beq {c c' : ClassDefinition} (h : (c == c') = true) :
    c.packageName = c'.packageName := by
  cases c; cases c'
  change ClassDefinition.same _ _ = true at h
  simp only [ClassDefinition.same, Bool.and_eq_true] at h
  obtain ⟨-, -, hplacement, -⟩ := ClassHeader.beq_iff.1 h.1.1.1
  exact congrArg Placement.packageName hplacement

/-- Equal expressions are of one form, so they are bracketed in the same places. -/
theorem Expr.bindsLoosely_eq_of_same {e e' : Expr} (h : e.same e' = true) :
    e.bindsLoosely = e'.bindsLoosely := by
  cases e <;> cases e' <;> first | rfl | simp [same] at h

theorem Receiver.isImplicit_eq_of_same {receiver receiver' : Receiver}
    (h : receiver.same receiver' = true) : receiver.isImplicit = receiver'.isImplicit := by
  cases receiver <;> cases receiver' <;> first | rfl | simp [same] at h

theorem isEmpty_eq_of_sameStatements {ss ss' : List Statement}
    (h : sameStatements ss ss' = true) : ss.isEmpty = ss'.isEmpty := by
  cases ss <;> cases ss' <;> first | rfl | simp [sameStatements] at h

end JavaSyntax
