import JavaSyntax.Expr.Draft
import JavaSyntax.Expr.Operation
import JavaSyntax.Method.Draft
import JavaSyntax.Proofs.Types.Equality
import JavaSyntax.Proofs.Types.Exclusion

/-!
# What a slot accepts

A class is accepted by its full name and by those of its supertypes. A class is among its own
supertypes in this sense, so type arguments never stand in the way: a list of strings accepts a
list of integers. A conditional expression reports the type of its first branch, unless that is
`null`; the other branch fits this type only where the first branch could have been assigned from
the second.
-/

set_option autoImplicit false

namespace JavaSyntax

/-! ## Classes -/

namespace Reference

variable {target value : Reference}

theorem isSubtypeOf_of_fullName_eq (h : target.fullName = value.fullName) :
    value.isSubtypeOf target.fullName = true := by
  rw [isSubtypeOf, h, beq_self_eq_true, Bool.true_or]

/-- The rules that look at type arguments let nothing through that the full names do not. -/
theorem accepts_iff :
    target.accepts value = true ↔
      value.isNull = true ∨ target.isObject = true ∨ value.isSubtypeOf target.fullName = true := by
  have hequal : (target == value) = true → value.isSubtypeOf target.fullName = true :=
    fun h => isSubtypeOf_of_fullName_eq (fullName_eq_of_beq h)
  have herased : target.matchesErased value = true → value.isSubtypeOf target.fullName = true := by
    intro h
    rw [matchesErased, Bool.and_eq_true, beq_iff_eq] at h
    exact isSubtypeOf_of_fullName_eq h.1
  simp only [accepts, Bool.or_eq_true]
  constructor
  · rintro ((((h | h) | h) | h) | h)
    · exact .inr (.inr (hequal h))
    · exact .inl h
    · exact .inr (.inl h)
    · exact .inr (.inr (herased h))
    · exact .inr (.inr h)
  · rintro (h | h | h)
    · exact .inl (.inl (.inl (.inr h)))
    · exact .inl (.inl (.inr h))
    · exact .inr h

theorem accepts_self (r : Reference) : r.accepts r = true :=
  accepts_iff.2 (.inr (.inr (isSubtypeOf_of_fullName_eq rfl)))

end Reference

/-! ## Types -/

namespace JavaType

/-- Only what has no value is not accepted by its own type. -/
theorem accepts_self {t : JavaType} (h : t.isVoid = false) : t.accepts t = true := by
  rcases t with _ | (p | r) | (p | r)
  · cases h
  · exact p.widensTo_refl
  · exact r.accepts_self
  · exact beq_self_eq_true p
  · exact r.accepts_self

theorem isVoid_of_accepts {target value : JavaType} (h : target.accepts value = true) :
    target.isVoid = false ∧ value.isVoid = false := by
  rcases target with _ | _ | _ <;> rcases value with _ | _ | _
  all_goals first | exact ⟨rfl, rfl⟩ | cases h

/-- Exactly the slots for objects accept `null`. -/
theorem accepts_of_isNull {value : JavaType} (h : value.isNull = true) (target : JavaType) :
    target.accepts value = target.isReference := by
  obtain ⟨r, rfl, hr⟩ := exists_reference_of_isClassThat h
  rcases target with _ | (p | t) | t
  · rfl
  · change r.unboxed?.any (·.widensTo p) = false
    rw [Reference.unboxed?_of_isNull hr]
    rfl
  · exact Reference.accepts_iff.2 (.inl hr)
  · exact hr

/-- A slot of the type of `null` accepts objects at most. -/
theorem isReference_of_accepts {target value : JavaType} (hnull : target.isNull = true)
    (h : target.accepts value = true) : value.isReference = true := by
  obtain ⟨r, rfl, hr⟩ := exists_reference_of_isClassThat hnull
  rcases value with _ | (p | v) | v
  · cases h
  · have hobject : r.isObject = false := Reference.isExactly_eq_false hr (by decide)
    change (r.isObject || r.unboxed? == some p) = true at h
    rw [hobject, Reference.unboxed?_of_isNull hr] at h
    cases h
  · rfl
  · rfl

end JavaType

/-! ## Type arguments -/

/-- A class is accepted where the same class is wanted, whatever the type arguments of the two: by
slots, by variables that are assigned to, and by methods that return a value. -/
theorem accepts_of_fullName_eq {target value : Reference} (h : target.fullName = value.fullName) :
    (JavaType.ofReference target).accepts (.ofReference value) = true ∧
    (∀ (v : VariableExpr) (source : Expr), v.type = .ofReference target →
      source.type = .ofReference value →
      Assignment.make v source = .ok { target := v, source := source }) ∧
    ∀ (draft : MethodDraft) (name : String) (result : Expr), draft.result = some result →
      result.type = .ofReference value →
      draft.checkResult name (.ofReference target) = .ok () := by
  have haccepts : (JavaType.ofReference target).accepts (.ofReference value) = true :=
    Reference.accepts_iff.2 (.inr (.inr (Reference.isSubtypeOf_of_fullName_eq h)))
  refine ⟨haccepts, ?_, ?_⟩
  · intro v source hv hsource
    rw [Assignment.make, hv, hsource, if_pos haccepts]
  · intro draft name result hresult htype
    simp only [MethodDraft.checkResult, hresult, htype, if_pos haccepts]

/-- A list of integers may be assigned to a variable for lists of strings, and returned where a
list of strings is promised. -/
theorem accepts_of_fullName_eq_list :
    let listOf (element : ClassName) : Reference :=
      .compiled (.javaUtil { text := "List" }) [.wellKnown element] [] false
    let strings := listOf .string
    let integers := listOf (.boxed .int)
    let v : VariableExpr := .ofVariable ⟨{ text := "names" }, .ofReference strings, rfl⟩
    let source : Expr := .value (.this (.ofReference integers))
    let draft : MethodDraft := { result := some source }
    strings.fullName = integers.fullName ∧ (strings.arguments == integers.arguments) = false ∧
      Assignment.make v source = .ok { target := v, source := source } ∧
      draft.checkResult "names" (.ofReference strings) = .ok () := by
  intro listOf strings integers v source draft
  have hname : strings.fullName = integers.fullName := rfl
  obtain ⟨-, hassign, hreturn⟩ := accepts_of_fullName_eq hname
  exact ⟨hname, by decide, hassign v source rfl rfl, hreturn draft "names" source rfl rfl⟩

/-- So acceptance does not respect type arguments. -/
theorem accepts_not_injective_on_arguments :
    ¬ ∀ target value : Reference, target.fullName = value.fullName →
      target.arguments ≠ [] → value.arguments ≠ [] →
      (JavaType.ofReference target).accepts (.ofReference value) = true →
      (target.arguments == value.arguments) = true := by
  intro h
  let listOf (element : ClassName) : Reference :=
    .compiled (.javaUtil { text := "List" }) [.wellKnown element] [] false
  have hequal := h (listOf .string) (listOf (.boxed .int)) rfl (List.cons_ne_nil _ _)
    (List.cons_ne_nil _ _) (by decide)
  exact absurd hequal (by decide)

/-! ## Conditional expressions -/

namespace Expr

theorem mkTernary_eq_ok_iff {condition whenTrue whenFalse e : Expr} :
    mkTernary condition whenTrue whenFalse = .ok e ↔
      condition.type.isBoolean = true ∧
        (whenTrue.type.accepts whenFalse.type = true ∨
          whenFalse.type.accepts whenTrue.type = true) ∧
        .ternary condition whenTrue whenFalse = e := by
  simp only [mkTernary, bind_eq_ok_iff, exists_unit_iff, checkCondition_eq_ok_iff]
  split <;> simp_all [mismatch, pure_eq_ok_iff]

theorem mkTernary_eq_ok {condition whenTrue whenFalse e : Expr}
    (h : mkTernary condition whenTrue whenFalse = .ok e) :
    e = .ternary condition whenTrue whenFalse ∧
      (whenTrue.type.accepts whenFalse.type = true ∨
        whenFalse.type.accepts whenTrue.type = true) := by
  obtain ⟨-, hbranches, rfl⟩ := mkTernary_eq_ok_iff.1 h
  exact ⟨rfl, hbranches⟩

/-- The type that a conditional expression reports always accepts the first branch. It accepts the
second one exactly if the first branch is `null` or could itself be assigned from the second. -/
theorem mkTernary_type_accepts {condition whenTrue whenFalse e : Expr}
    (h : mkTernary condition whenTrue whenFalse = .ok e) :
    e.type.accepts whenTrue.type = true ∧
      (e.type.accepts whenFalse.type = true ↔
        whenTrue.type.isNull = true ∨ whenTrue.type.accepts whenFalse.type = true) := by
  obtain ⟨rfl, hbranches⟩ := mkTernary_eq_ok h
  have hvoid : whenTrue.type.isVoid = false ∧ whenFalse.type.isVoid = false :=
    hbranches.elim JavaType.isVoid_of_accepts fun h => (JavaType.isVoid_of_accepts h).symm
  cases hnull : whenTrue.type.isNull with
  | false =>
    have htype : (ternary condition whenTrue whenFalse).type = whenTrue.type := by
      simp [type, JavaType.unlessNull, hnull]
    rw [htype]
    exact ⟨JavaType.accepts_self hvoid.1, by simp⟩
  | true =>
    have htype : (ternary condition whenTrue whenFalse).type = whenFalse.type := by
      simp [type, JavaType.unlessNull, hnull]
    have hnullFits := JavaType.accepts_of_isNull hnull whenFalse.type
    -- Whichever way the branches were found to go together, the second one is an object.
    have hreference : whenFalse.type.isReference = true :=
      hbranches.elim (JavaType.isReference_of_accepts hnull) hnullFits.symm.trans
    rw [htype]
    exact ⟨hnullFits.trans hreference, by simp [JavaType.accepts_self hvoid.2]⟩

/-- A choice between a wider and a narrower number reports the wider type, which accepts both. -/
theorem mkTernary_type_accepts_narrower :
    let named (text : Identifier) (p : Primitive) : Expr :=
      .var (.ofVariable ⟨text, .ofPrimitive p, rfl⟩)
    let flag := named { text := "flag" } .boolean
    let wide := named { text := "wide" } .long
    let narrow := named { text := "narrow" } .int
    mkTernary flag wide narrow = .ok (.ternary flag wide narrow) ∧
      (ternary flag wide narrow).type.accepts wide.type = true ∧
      (ternary flag wide narrow).type.accepts narrow.type = true := by
  intro named flag wide narrow
  have hmade : mkTernary flag wide narrow = .ok (.ternary flag wide narrow) := rfl
  obtain ⟨hwide, hnarrow⟩ := mkTernary_type_accepts hmade
  exact ⟨hmade, hwide, hnarrow.2 (.inr rfl)⟩

/-- With the narrower number first, the reported type does not accept the other branch. -/
theorem mkTernary_type_refuses_wider :
    let named (text : Identifier) (p : Primitive) : Expr :=
      .var (.ofVariable ⟨text, .ofPrimitive p, rfl⟩)
    let flag := named { text := "flag" } .boolean
    let narrow := named { text := "narrow" } .int
    let wide := named { text := "wide" } .long
    mkTernary flag narrow wide = .ok (.ternary flag narrow wide) ∧
      (ternary flag narrow wide).type.accepts wide.type = false :=
  ⟨rfl, rfl⟩

end Expr

end JavaSyntax
