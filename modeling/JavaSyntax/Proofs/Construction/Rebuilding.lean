import JavaSyntax.JavaType.Draft
import JavaSyntax.Proofs.Construction.Obtainable
import Mathlib.Logic.Function.Iterate

/-!
# Rebuilding changes nothing

Whatever is obtainable and has a draft is built again from this draft, equal in every field. What
is built has the completed draft as its own, and a completed draft is built like the draft itself,
so nothing needs to be known of what the node holds. The name of a generated class can be read back
because the class stands in a package, which the building of a reference has checked.
-/

set_option autoImplicit false

namespace JavaSyntax

/-! ## Nodes -/

/-- An obtainable node is built again from its own draft. -/
theorem Obtainable.rebuild_eq {n : Node} (h : Obtainable n) {draft : Draft}
    (hdraft : n.toDraft? = some draft) : draft.build = .ok n :=
  h.everywhere (P := fun n => ∀ draft, n.toDraft? = some draft → draft.build = .ok n)
    (fun hmade _ => hmade.rebuild) .self draft hdraft

/-! ## References to generated classes -/

namespace Reference

/-- Whether every generated class that a reference names stands in a package. -/
inductive Placed : Reference → Prop
  | wildcard {as : List Reference} (has : ∀ a ∈ as, Placed a) : Placed (.wildcard as)
  | compiled {c : ClassName} {as : List Reference} {supertypes : List String} {isStatic : Bool}
    (has : ∀ a ∈ as, Placed a) : Placed (.compiled c as supertypes isStatic)
  | generated {c : ClassName} {as : List Reference} {parent : Option Reference} {isStatic : Bool}
    (hpackage : c.package ≠ []) (has : ∀ a ∈ as, Placed a) (hparent : ∀ p ∈ parent, Placed p) :
    Placed (.generated c as parent isStatic)

/-- The references that any sequence of calls leads to. -/
inductive Obtainable : Reference → Prop
  | wildcard : Obtainable (.wildcard [])
  | wellKnown (c : ClassName) : Obtainable (.wellKnown c)
  | compiled {draft : CompiledDraft} {r : Reference} (has : ∀ a ∈ draft.arguments, Obtainable a)
    (h : draft.build = .ok r) : Obtainable r
  | generated {draft : GeneratedDraft} {r : Reference} (has : ∀ a ∈ draft.arguments, Obtainable a)
    (hparent : ∀ p ∈ draft.parent, Obtainable p) (h : draft.build = .ok r) : Obtainable r
  | withArguments {r : Reference} {as : List Reference} (hr : Obtainable r)
    (has : ∀ a ∈ as, Obtainable a) : Obtainable (r.withArguments as)
  | argument {r a : Reference} (hr : Obtainable r) (ha : a ∈ r.arguments) : Obtainable a
  /-- The draft of a reference is changed in any way and built again. -/
  | rebuild {original r : Reference} {draft changed : GeneratedDraft}
    (horiginal : Obtainable original) (hdraft : original.toDraft? = some draft)
    (has : ∀ a ∈ changed.arguments, a ∉ draft.arguments → Obtainable a)
    (hparent : ∀ p ∈ changed.parent, p ∉ draft.parent → Obtainable p) (h : changed.build = .ok r) :
    Obtainable r

end Reference

namespace GeneratedDraft

theorem simpleName_eq_ok_iff {field text : String} {identifier : Identifier} :
    simpleName field text = .ok identifier ↔ text = identifier.text ∧ True := by
  unfold simpleName
  cases h : Identifier.ofString? text with
  | none =>
    simp only [reject, reduceCtorEq, and_true, false_iff]
    intro htext
    rw [Identifier.ofString?_eq_some_iff.2 htext.symm] at h
    cases h
  | some i =>
    have hi := Identifier.ofString?_eq_some_iff.1 h
    simp [← hi, Identifier.ext_iff]

/-- A reference is built exactly from its own draft, if the class stands in a package. -/
theorem build_eq_ok_iff {draft : GeneratedDraft} {r : Reference} :
    draft.build = .ok r ↔
      r.toDraft? = some draft ∧ ∀ c ∈ r.className?, c.package ≠ [] := by
  obtain ⟨package, name, enclosing, as, parent, isStatic⟩ := draft
  simp only [build, bind_eq_ok_iff, given_eq_ok_iff, simpleName_eq_ok_iff]
  constructor
  · rintro ⟨_, rfl, package, rfl, identifier, ⟨rfl, -⟩, h⟩
    split at h
    · cases h
    · next parts hparts =>
      simp only [bind_eq_ok_iff, mapM_eq_ok_iff fun _ _ => simpleName_eq_ok_iff,
        pure_eq_ok_iff] at h
      obtain ⟨around, ⟨rfl, -⟩, rfl⟩ := h
      obtain ⟨hne, rfl⟩ := Identifier.ofDotted?_eq_some_iff_dotted.1 hparts
      exact ⟨rfl, by simpa [Reference.className?] using hne⟩
  · rintro ⟨hdraft, hplaced⟩
    cases r with
    | generated c as parent isStatic =>
      simp only [Reference.toDraft?, Option.some.injEq, GeneratedDraft.mk.injEq] at hdraft
      obtain ⟨rfl, rfl, rfl, rfl, rfl, rfl⟩ := hdraft
      have hpackage : Identifier.ofDotted? c.packageName = some c.package :=
        Identifier.ofDotted?_eq_some_iff_dotted.2 ⟨hplaced c rfl, rfl⟩
      refine ⟨_, rfl, _, rfl, c.name, ⟨rfl, trivial⟩, ?_⟩
      simp only [hpackage, bind_eq_ok_iff, mapM_eq_ok_iff fun _ _ => simpleName_eq_ok_iff,
        pure_eq_ok_iff]
      exact ⟨c.enclosing, ⟨rfl, by simp⟩, rfl⟩
    | _ => cases hdraft

end GeneratedDraft

namespace Reference

/-- What is built from placed references is placed. -/
theorem Placed.build {draft : GeneratedDraft} {r : Reference}
    (has : ∀ a ∈ draft.arguments, Placed a) (hparent : ∀ p ∈ draft.parent, Placed p) (h : draft.build = .ok r) : r.Placed := by
  obtain ⟨hdraft, hpackage⟩ := GeneratedDraft.build_eq_ok_iff.1 h
  cases r with
  | generated c as parent isStatic =>
    cases hdraft
    exact .generated (hpackage c rfl) has hparent
  | _ => cases hdraft

theorem Placed.argument {r a : Reference} (hr : r.Placed) (ha : a ∈ r.arguments) : a.Placed := by
  cases hr with
  | wildcard has => exact has a ha
  | compiled has => exact has a ha
  | generated _ has _ => exact has a ha

theorem Placed.of_toDraft? {r : Reference} {draft : GeneratedDraft} (hr : r.Placed)
    (hdraft : r.toDraft? = some draft) :
    (∀ a ∈ draft.arguments, Placed a) ∧ ∀ p ∈ draft.parent, Placed p := by
  cases hr with
  | wildcard | compiled => cases hdraft
  | generated _ has hparent =>
    cases hdraft
    exact ⟨has, hparent⟩

theorem Obtainable.placed {r : Reference} (h : r.Obtainable) : r.Placed := by
  induction h with
  | wildcard => exact .wildcard (by simp)
  | wellKnown c => exact .compiled (by simp)
  | compiled _ h has =>
    obtain ⟨_, _, -, -, rfl⟩ := CompiledDraft.build_eq_ok_iff.1 h
    exact .compiled has
  | generated _ _ h has hparent => exact .build has hparent h
  | withArguments _ _ hr has =>
    cases hr with
    | wildcard _ => exact .wildcard has
    | compiled _ => exact .compiled has
    | generated hpackage _ hparent => exact .generated hpackage has hparent
  | argument _ ha hr => exact hr.argument ha
  | rebuild _ hdraft _ _ h horiginal has hparent =>
    obtain ⟨hold, holdParent⟩ := horiginal.of_toDraft? hdraft
    refine .build (fun a ha => ?_) (fun p hp => ?_) h
    · exact (em (a ∈ _)).elim (hold a) (has a ha)
    · exact (em (p ∈ _)).elim (holdParent p) (hparent p hp)

/-- An obtainable reference to a generated class is built again from its own draft. -/
theorem Obtainable.rebuild_eq {r : Reference} (h : r.Obtainable) {draft : GeneratedDraft}
    (hdraft : r.toDraft? = some draft) : draft.build = .ok r := by
  refine GeneratedDraft.build_eq_ok_iff.2 ⟨hdraft, fun c hc => ?_⟩
  cases h.placed with
  | wildcard | compiled => cases hdraft
  | generated hpackage _ _ =>
    cases hc
    exact hpackage

end Reference

/-! ## Overrides -/

/-- The method that is built again from its own draft, with the mark of an override wanted. -/
def Method.rebuildOverride (m : Method) : Checked Method :=
  { m.toDraft with isOverride := true : MethodDraft }.build

namespace MethodDraft

theorem contains_markedAnnotations {draft : MethodDraft} (h : draft.isOverride = true) :
    draft.markedAnnotations.contains Annotation.override = true := by
  have hself : Annotation.override == Annotation.override := by decide
  unfold markedAnnotations
  rw [h, Bool.true_and]
  split
  · rw [List.contains_cons, hself, Bool.true_or]
  · next hmarked => simpa using hmarked

/-- A method that has the mark of an override is built the same if the mark is wanted again. -/
theorem rebuildOverride_of_build {draft : MethodDraft} {m : Method}
    (hoverride : draft.isOverride = true) (h : draft.build = .ok m) : m.rebuildOverride = .ok m := by
  have hcontains := contains_markedAnnotations hoverride
  -- The mark is there already, so wanting it again completes the draft to the same one.
  have hcompleted : { draft.completed with isOverride := true : MethodDraft }.completed
      = draft.completed := by
    have hname : chosenName? { draft.completed with isOverride := true } = draft.chosenName? := by
      unfold completed chosenName?
      cases draft.name <;> cases draft.isConstructor <;> simp
    have hmarks : markedAnnotations { draft.completed with isOverride := true }
        = draft.markedAnnotations := by
      rw [markedAnnotations]
      simp [completed, hcontains]
    rw [completed, hname, hmarks]
    rfl
  rw [Method.rebuildOverride, toDraft_of_build h, ← build_completed, hcompleted, build_completed, h]

end MethodDraft

/-! ## All of it -/

/-- Rebuilding is the identity: whatever is obtainable and has a draft is built again from this
draft, equal in every field. Wanting the mark of an override again, any number of times, adds none
to a method that was built with it. -/
theorem rebuild_eq_self :
    (∀ v, Obtainable (.var v) → v.toDraft.build = .ok v) ∧
    (∀ e draft, Obtainable (.expression e) → e.toCallDraft? = some draft → draft.build = .ok e) ∧
    (∀ s draft, Obtainable (.statement s) → s.toConditionalDraft? = some draft →
      draft.build = .ok s) ∧
    (∀ s draft, Obtainable (.statement s) → s.toTryDraft? = some draft → draft.build = .ok s) ∧
    (∀ m, Obtainable (.method m) → m.toDraft.build = .ok m) ∧
    (∀ c, Obtainable (.definition c) → c.toDraft.build = .ok c) ∧
    (∀ t : JavaType, t.toDraft.build = .ok t) ∧
    (∀ (r : Reference) draft, r.Obtainable → r.toDraft? = some draft → draft.build = .ok r) ∧
    (∀ (draft : MethodDraft) m, draft.isOverride = true → draft.build = .ok m →
      ∀ times, (· >>= Method.rebuildOverride)^[times] (.ok m) = .ok m) := by
  refine ⟨fun v h => ?_, fun e draft h hdraft => ?_, fun s draft h hdraft => ?_,
    fun s draft h hdraft => ?_, fun m h => ?_, fun c h => ?_, JavaType.build_toDraft,
    fun r draft h => h.rebuild_eq, fun draft m hoverride h times => ?_⟩
  · exact Draft.eq_ok_of_map (fun _ _ => Node.var.inj) (h.rebuild_eq rfl)
  · have hown : (Node.expression e).toDraft? = some (.call draft) :=
      congrArg (Option.map Draft.call) hdraft
    exact Draft.eq_ok_of_map (fun _ _ => Node.expression.inj) (h.rebuild_eq hown)
  · have hown := Statement.toDraft?_of_conditional hdraft
    exact Draft.eq_ok_of_map (fun _ _ => Node.statement.inj) (h.rebuild_eq hown)
  · have hown := Statement.toDraft?_of_tryCatch hdraft
    exact Draft.eq_ok_of_map (fun _ _ => Node.statement.inj) (h.rebuild_eq hown)
  · exact Draft.eq_ok_of_map (fun _ _ => Node.method.inj) (h.rebuild_eq rfl)
  · exact Draft.eq_ok_of_map (fun _ _ => Node.definition.inj) (h.rebuild_eq rfl)
  · have hfixed : (.ok m >>= Method.rebuildOverride) = .ok m :=
      MethodDraft.rebuildOverride_of_build hoverride h
    exact Function.iterate_fixed hfixed times

/-- A declaration, a method that overrides another, and a generated class with a parent. -/
theorem rebuild_eq_self_override :
    let count : VariableExpr := .declare ⟨{ text := "count" }, .ofPrimitive .int, rfl⟩
    let run : Method := ⟨⟨[], [.override], {}, false, .void, { text := "run" }, [], []⟩, [], none⟩
    let shape : Reference :=
      .generated ⟨[{ text := "com" }], [], { text := "Shape" }⟩ [] (some (.wellKnown .object)) true
    count.toDraft.build = .ok count ∧ run.toDraft.build = .ok run ∧
      (· >>= Method.rebuildOverride)^[2] (.ok run) = .ok run ∧
      ∃ draft, shape.toDraft? = some draft ∧ draft.build = .ok shape := by
  intro count run shape
  have hcount : Obtainable (.var count) := .make (.declare _) (by simp)
  have hbuild : MethodDraft.build { isOverride := true, name := some "run" } = .ok run := rfl
  have hbuildNode : Draft.build (.method { isOverride := true, name := some "run" })
      = .ok (.method run) := rfl
  have hrun : Obtainable (.method run) :=
    .make (.build hbuildNode) (by simp [Draft.parts, presentStatements])
  have hshapeBuild : GeneratedDraft.build
      { package := some "com"
        name := some "Shape"
        parent := some (.wellKnown .object)
        isStaticImport := true } = .ok shape := rfl
  have hparent : ∀ p ∈ some (Reference.wellKnown .object), p.Obtainable := by
    simpa using Reference.Obtainable.wellKnown .object
  have hshape : shape.Obtainable := .generated (by simp) hparent hshapeBuild
  obtain ⟨hvariables, -, -, -, hmethods, -, -, hreferences, hoverrides⟩ := rebuild_eq_self
  exact ⟨hvariables count hcount, hmethods run hrun, hoverrides _ run rfl hbuild 2,
    _, rfl, hreferences shape _ hshape rfl⟩

end JavaSyntax
