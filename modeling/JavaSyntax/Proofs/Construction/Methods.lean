import JavaSyntax.Method.Draft
import JavaSyntax.Proofs.Construction.Members

/-!
# Which methods can be constructed

A draft of a method is accepted exactly if it is well formed. `MethodDraft.WellFormed` says what
this means without the order in which the rules are looked at and without the rejections; the rules
for modifiers, body and result are those of one of four shapes. A draft may leave its return type,
the name of a constructor and the mark of an override to be chosen. The completed draft has them
written out. Completing a draft changes nothing about what is built from it, and what is built has
the completed draft as its own.
-/

set_option autoImplicit false

namespace JavaSyntax

namespace MethodDraft

/-- The name that is given, or the one that a constructor takes from its type, if there is one. -/
def chosenName? (draft : MethodDraft) : Option String :=
  draft.name.or (if draft.isConstructor then className? (draft.returnType.getD .void) else none)

/-- The draft with everything that it leaves to be chosen. -/
def completed (draft : MethodDraft) : MethodDraft :=
  { draft with
    annotations := draft.markedAnnotations
    isOverride := false
    returnType := some (draft.returnType.getD .void)
    name := draft.chosenName? }

theorem chooseName_eq_ok_iff {draft : MethodDraft} {name : String} :
    draft.chooseName (draft.returnType.getD .void) = .ok name ↔ draft.chosenName? = some name := by
  unfold chooseName chosenName?
  cases draft.name with
  | some given => simp
  | none =>
    cases draft.isConstructor with
    | false => simp [reject]
    | true => cases className? (draft.returnType.getD .void) <;> simp [reject]

/-- Parameters are declarations, kept in order, of variables that are not declared before them. -/
theorem declareParameters_eq_ok_iff {parameters : List VariableExpr} {declared : List String}
    {ds : List Declaration} :
    declareParameters declared parameters = .ok ds ↔
      parameters = ds.map .declaration ∧ Fresh declared (parameters.map (·.name)) := by
  induction parameters generalizing declared ds with
  | nil => cases ds <;> simp [declareParameters, fresh_nil]
  | cons v rest ih =>
    cases v with
    | use v receiver => cases ds <;> simp [declareParameters, reject]
    | declaration d =>
      have hname : (VariableExpr.declaration d).name = d.name := rfl
      rw [declareParameters, List.map_cons, fresh_cons_iff, hname]
      by_cases hd : d.name ∈ declared
      · simp [hd]
      · simp only [hd, if_false, bind_eq_ok_iff, ih, pure_eq_ok_iff, not_false_eq_true, true_and]
        constructor
        · rintro ⟨later, ⟨rfl, hfresh⟩, rfl⟩
          exact ⟨rfl, hfresh⟩
        · rintro ⟨heq, hfresh⟩
          obtain _ | ⟨first, later⟩ := ds
          · cases heq
          · obtain ⟨hfirst, rfl⟩ := List.cons.inj heq
            cases hfirst
            exact ⟨later, ⟨rfl, hfresh⟩, rfl⟩

theorem exceptionClass_eq_ok_iff {type : JavaType} {r : Reference} :
    exceptionClass type = .ok r ↔ type = .ofReference r ∧ r.isException = true := by
  unfold exceptionClass
  rcases type with _ | (_ | s) | _ <;>
    simp only [JavaType.singleReference?, JavaType.ofReference, Option.filter_none,
      Option.filter_some, JavaType.single.injEq, ElementType.reference.injEq, reject, reduceCtorEq,
      false_and]
  cases hs : s.isException
  · simp only [Bool.false_eq_true, reduceIte, reduceCtorEq, false_iff, not_and]
    rintro rfl
    simp [hs]
  · simp only [reduceIte, Except.ok.injEq, iff_self_and]
    rintro rfl
    exact hs

/-- What is built has the completed draft as its own. -/
theorem toDraft_of_build {draft : MethodDraft} {m : Method} (h : draft.build = .ok m) :
    m.toDraft = draft.completed := by
  simp only [build, bind_eq_ok_iff, exists_unit_iff, chooseName_eq_ok_iff,
    Identifier.ofString_eq_ok_iff, withoutGaps_eq_ok_iff,
    mapM_eq_ok_iff fun _ _ => exceptionClass_eq_ok_iff, pure_eq_ok_iff] at h
  obtain ⟨_, hname, identifier, rfl, -, parameters, hparameters, ds, hds, rs, ⟨hexceptions, -⟩,
    body, hbody, rfl⟩ := h
  rw [(declareParameters_eq_ok_iff.1 hds).1, List.map_map] at hparameters
  simp only [Method.toDraft, completed, Method.name, hname, hparameters, hexceptions, hbody]
  rfl

/-- Writing out what a draft leaves to be chosen does not change what is built, nor why not. -/
theorem build_completed (draft : MethodDraft) : draft.completed.build = draft.build := by
  have hname : draft.completed.chooseName (draft.returnType.getD .void)
      = draft.chooseName (draft.returnType.getD .void) := by
    unfold chooseName completed chosenName?
    cases draft.name with
    | some name => rfl
    | none =>
      cases draft.isConstructor with
      | false => rfl
      | true => cases className? (draft.returnType.getD .void) <;> rfl
  have hshape (name : String) (returnType : JavaType) :
      draft.completed.checkShape name returnType = draft.checkShape name returnType := rfl
  have hmarks : draft.completed.markedAnnotations = draft.markedAnnotations := by
    rw [markedAnnotations]
    rfl
  unfold build
  simp only [hshape, hmarks]
  rw [show draft.completed.returnType.getD .void = draft.returnType.getD .void from rfl, hname]
  rfl

/-! ## Well-formed drafts -/

/-- The four shapes of a method, with the rules that each has for modifiers, body and result. A
draft decides itself which of them it must have. -/
inductive HasShape (draft : MethodDraft) : Prop
  /-- A constructor belongs to objects, has no result, and is named after its class. -/
  | constructor (isConstructor : draft.isConstructor = true)
    (isAbstract : draft.modifiers.isAbstract = false)
    (isStatic : draft.modifiers.isStatic = false)
    (result : draft.result = none)
    (name : className? (draft.returnType.getD .void) = draft.chosenName?)
  /-- An abstract method can be replaced and does nothing itself. -/
  | abstract (isConstructor : draft.isConstructor = false)
    (isAbstract : draft.modifiers.isAbstract = true)
    (isStatic : draft.modifiers.isStatic = false)
    (isFinal : draft.modifiers.isFinal = false)
    (body : draft.body = [])
    (result : draft.result = none)
  /-- Where nothing is returned, there is no result. -/
  | void (isConstructor : draft.isConstructor = false)
    (isAbstract : draft.modifiers.isAbstract = false)
    (returnType : (draft.returnType.getD .void).isVoid = true)
    (result : draft.result = none)
  /-- Where something is returned, there is a result that fits. -/
  | valued {e : Expr} (isConstructor : draft.isConstructor = false)
    (isAbstract : draft.modifiers.isAbstract = false)
    (returnType : (draft.returnType.getD .void).isVoid = false)
    (result : draft.result = some e)
    (accepts : (draft.returnType.getD .void).accepts e.type = true)

/-- The rules for a method. -/
structure WellFormed (draft : MethodDraft) : Prop where
  name : ∃ name, draft.chosenName? = some name ∧ Identifier.isValid name = true
  shape : draft.HasShape
  noGaps : none ∉ draft.parameters ∧ none ∉ draft.body
  /-- Every parameter is a declaration. -/
  parameters : ∀ v ∈ draft.parameters.filterMap id, v.declaration?.isSome = true
  parameterNames : ((draft.parameters.filterMap id).map (·.name)).Nodup
  exceptions : ∀ t ∈ draft.exceptions, t.isException = true

theorem checkConstructor_eq_ok_iff {draft : MethodDraft} {name : String} {returnType : JavaType} :
    draft.checkConstructor name returnType = .ok () ↔
      (draft.modifiers.isAbstract = false ∧ draft.modifiers.isStatic = false) ∧
        draft.result = none ∧ className? returnType = some name := by
  simp [checkConstructor, bind_eq_ok_iff, exists_unit_iff, require_eq_ok_iff]

theorem checkAbstract_eq_ok_iff {draft : MethodDraft} {name : String} :
    draft.checkAbstract name = .ok () ↔
      (draft.modifiers.isStatic = false ∧ draft.modifiers.isFinal = false) ∧
        draft.body = [] ∧ draft.result = none := by
  simp [checkAbstract, bind_eq_ok_iff, exists_unit_iff, require_eq_ok_iff]

theorem checkResult_eq_ok_iff {draft : MethodDraft} {name : String} {returnType : JavaType} :
    draft.checkResult name returnType = .ok () ↔
      ∃ e, draft.result = some e ∧ returnType.accepts e.type = true := by
  unfold checkResult
  cases draft.result <;> simp [reject, mismatch]

theorem checkShape_eq_ok_iff {draft : MethodDraft} {name : String}
    (hname : draft.chosenName? = some name) :
    draft.checkShape name (draft.returnType.getD .void) = .ok () ↔ draft.HasShape := by
  unfold checkShape
  constructor
  · intro h
    cases hconstructor : draft.isConstructor with
    | true =>
      rw [if_pos hconstructor, checkConstructor_eq_ok_iff] at h
      obtain ⟨⟨habstract, hstatic⟩, hresult, hclass⟩ := h
      exact .constructor hconstructor habstract hstatic hresult (hclass.trans hname.symm)
    | false =>
      rw [if_neg (by simp [hconstructor])] at h
      cases habstract : draft.modifiers.isAbstract with
      | true =>
        rw [if_pos habstract, checkAbstract_eq_ok_iff] at h
        obtain ⟨⟨hstatic, hfinal⟩, hbody, hresult⟩ := h
        exact .abstract hconstructor habstract hstatic hfinal hbody hresult
      | false =>
        rw [if_neg (by simp [habstract])] at h
        cases htype : (draft.returnType.getD .void).isVoid with
        | true =>
          rw [if_pos htype, require_eq_ok_iff, Option.isNone_iff_eq_none] at h
          exact .void hconstructor habstract htype h
        | false =>
          rw [if_neg (by simp [htype]), checkResult_eq_ok_iff] at h
          obtain ⟨e, hresult, haccepts⟩ := h
          exact .valued hconstructor habstract htype hresult haccepts
  · intro h
    cases h with
    | constructor hconstructor habstract hstatic hresult hclass =>
      rw [if_pos hconstructor, checkConstructor_eq_ok_iff]
      exact ⟨⟨habstract, hstatic⟩, hresult, hclass.trans hname⟩
    | abstract hconstructor habstract hstatic hfinal hbody hresult =>
      rw [if_neg (by simp [hconstructor]), if_pos habstract, checkAbstract_eq_ok_iff]
      exact ⟨⟨hstatic, hfinal⟩, hbody, hresult⟩
    | void hconstructor habstract htype hresult =>
      simp [hconstructor, habstract, htype, hresult, require_eq_ok_iff]
    | valued hconstructor habstract htype hresult haccepts =>
      simp [hconstructor, habstract, htype, hresult, haccepts, checkResult_eq_ok_iff]

/-- Parameters can stand together exactly if they are declarations with different names. -/
theorem exists_declareParameters_eq_ok_iff {parameters : List VariableExpr} :
    (∃ ds, declareParameters [] parameters = .ok ds) ↔
      (∀ v ∈ parameters, v.declaration?.isSome = true) ∧ (parameters.map (·.name)).Nodup := by
  have hfresh (names : List String) : Fresh [] names ↔ names.Nodup := by simp [Fresh]
  have hdeclared (v : VariableExpr) : (∃ d, VariableExpr.declaration d = v) ↔
      v.declaration?.isSome = true := by
    cases v <;> simp [VariableExpr.declaration?]
  simp only [declareParameters_eq_ok_iff, hfresh, exists_and_right, exists_eq_map_iff, hdeclared]

theorem exists_exceptionClass_eq_ok_iff {type : JavaType} :
    (∃ r, exceptionClass type = .ok r) ↔ type.isException = true := by
  simp only [exceptionClass_eq_ok_iff]
  rcases type with _ | (_ | r) | _ <;>
    simp [JavaType.isException, JavaType.isClassThat, JavaType.singleReference?,
      JavaType.ofReference]

/-- A draft is accepted exactly if it is well formed. -/
theorem exists_build_eq_ok_iff {draft : MethodDraft} :
    (∃ m, draft.build = .ok m) ↔ draft.WellFormed := by
  simp only [build, bind_eq_ok_iff, exists_unit_iff, chooseName_eq_ok_iff,
    Identifier.ofString_eq_ok_iff, withoutGaps_eq_ok_iff, pure_eq_ok_iff]
  constructor
  · rintro ⟨_, _, hname, identifier, rfl, hshape, parameters, hparameters, ds, hds, rs,
      hexceptions, body, hbody, -⟩
    obtain ⟨hdeclared, hnames⟩ := exists_declareParameters_eq_ok_iff.1 ⟨ds, hds⟩
    constructor
    case name => exact ⟨_, hname, Identifier.isValid_iff.2 ⟨identifier, rfl⟩⟩
    case shape => exact (checkShape_eq_ok_iff hname).1 hshape
    case noGaps => simp [hparameters, hbody]
    case parameters => simpa [hparameters] using hdeclared
    case parameterNames => simpa [hparameters] using hnames
    case exceptions =>
      intro t ht
      exact exists_exceptionClass_eq_ok_iff.1 (exists_mapM_eq_ok_iff.1 ⟨rs, hexceptions⟩ t ht)
  · intro hwf
    obtain ⟨_, hname, hvalid⟩ := hwf.name
    obtain ⟨identifier, rfl⟩ := Identifier.isValid_iff.1 hvalid
    obtain ⟨parameters, hparameters⟩ := exists_eq_map_some_iff.2 hwf.noGaps.1
    obtain ⟨body, hbody⟩ := exists_eq_map_some_iff.2 hwf.noGaps.2
    obtain ⟨ds, hds⟩ : ∃ ds, declareParameters [] parameters = .ok ds := by
      refine exists_declareParameters_eq_ok_iff.2 ⟨?_, ?_⟩
      · simpa [hparameters] using hwf.parameters
      · simpa [hparameters] using hwf.parameterNames
    obtain ⟨rs, hexceptions⟩ := exists_mapM_eq_ok_iff.2 fun t ht =>
      exists_exceptionClass_eq_ok_iff.2 (hwf.exceptions t ht)
    exact ⟨_, _, hname, identifier, rfl, (checkShape_eq_ok_iff hname).2 hwf.shape, parameters,
      hparameters, ds, hds, rs, hexceptions, body, hbody, rfl⟩

/-- A method is accepted exactly if it is well formed. Its annotations are those that were given,
with the mark of an override in front exactly if that is wanted and none of them equals it. -/
theorem accepted_iff_wellFormed :
    (∀ draft : MethodDraft, (∃ m, draft.build = .ok m) ↔ draft.WellFormed) ∧
    ∀ (draft : MethodDraft) (m : Method), draft.build = .ok m →
      let isMarked := draft.isOverride = true ∧
        ∀ a ∈ draft.annotations, ¬ Annotation.override == a
      (isMarked → m.header.annotations = Annotation.override :: draft.annotations) ∧
        (¬ isMarked → m.header.annotations = draft.annotations) := by
  refine ⟨fun draft => exists_build_eq_ok_iff, fun draft m hm => ?_⟩
  intro isMarked
  have hannotations : m.header.annotations = draft.markedAnnotations :=
    congrArg MethodDraft.annotations (toDraft_of_build hm)
  have hcontains : (draft.isOverride && !draft.annotations.contains Annotation.override) = true ↔
      isMarked := by
    rw [Bool.and_eq_true, Bool.not_eq_true', ← Bool.not_eq_true,
      List.contains_iff_exists_mem_beq]
    simp [isMarked]
  rw [hannotations, markedAnnotations]
  constructor
  · intro h
    rw [if_pos (hcontains.2 h)]
  · intro h
    rw [if_neg (mt hcontains.1 h)]

/-- A constructor that takes its name from its class and is marked as an override. -/
theorem accepted_iff_wellFormed_constructor :
    let size : Variable := ⟨{ text := "size" }, .ofPrimitive .int, rfl⟩
    let draft : MethodDraft :=
      { constructor (.ofClass .arrayList) with
        annotations := [.deprecated]
        isOverride := true
        parameters := [some (.declaration { size with })] }
    ∃ m, draft.build = .ok m ∧ m.name = "ArrayList" ∧ draft.WellFormed ∧
      (draft.isOverride = true ∧ ∀ a ∈ draft.annotations, ¬ Annotation.override == a) ∧
      m.header.annotations = [.override, .deprecated] := by
  intro size draft
  obtain ⟨m, hm, hname⟩ : ∃ m, draft.build = .ok m ∧ m.name = "ArrayList" := ⟨_, rfl, rfl⟩
  have hmarked : draft.isOverride = true ∧
      ∀ a ∈ draft.annotations, ¬ Annotation.override == a := ⟨rfl, by decide⟩
  obtain ⟨haccepted, hannotations⟩ := accepted_iff_wellFormed
  exact ⟨m, hm, hname, (haccepted draft).1 ⟨m, hm⟩, hmarked, (hannotations draft m hm).1 hmarked⟩

end MethodDraft

end JavaSyntax
