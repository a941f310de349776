import JavaSyntax.Proofs.Types.Acceptance
import JavaSyntax.Reference.Draft
import JavaSyntax.Statement.Draft

/-!
# Equal types in the place of each other

Equal types name the same classes, but they may know different supertypes of them: one reference
to a class has been told what the class inherits from, another has not. Acceptance looks at the
supertypes of the class that is to be accepted, and there only for the class that is wanted. Equal
types can stand for each other as far as they agree on this; nothing else can tell them apart.
-/

set_option autoImplicit false

namespace JavaSyntax

/-! ## Classes -/

namespace Reference

variable {r s t u v w : Reference}

/-- Equal references inherit from a class together if their supertypes agree on it. -/
theorem isSubtypeOf_eq_of_beq {fullName : String} (h : (r == s) = true)
    (hname : fullName ∈ r.ancestors ↔ fullName ∈ s.ancestors) :
    r.isSubtypeOf fullName = s.isSubtypeOf fullName := by
  rw [Bool.eq_iff_iff, isSubtypeOf, isSubtypeOf, fullName_eq_of_beq h, Bool.or_eq_true,
    Bool.or_eq_true, List.contains_iff_mem, List.contains_iff_mem, hname]

theorem isNull_eq_of_beq (h : (r == s) = true) : r.isNull = s.isNull :=
  isExactly_eq_of_beq h Ancestry.nullClass

theorem isObject_eq_of_beq (h : (r == s) = true) : r.isObject = s.isObject :=
  isExactly_eq_of_beq h Ancestry.objectClass

/-- Between equal classes acceptance can only differ in that one value inherits from the wanted
class and the other does not, and then it does, unless a rule applies that looks at no
supertypes. -/
theorem accepts_eq_iff (ht : (t == u) = true) (hv : (v == w) = true) :
    t.accepts v = u.accepts w ↔
      v.isNull = true ∨ t.isObject = true ∨ v.fullName = t.fullName ∨
        (t.fullName ∈ v.ancestors ↔ t.fullName ∈ w.ancestors) := by
  rw [Bool.eq_iff_iff, accepts_iff, accepts_iff, ← isNull_eq_of_beq hv, ← isObject_eq_of_beq ht,
    ← fullName_eq_of_beq ht, isSubtypeOf, isSubtypeOf, ← fullName_eq_of_beq hv, Bool.or_eq_true,
    Bool.or_eq_true, List.contains_iff_mem, List.contains_iff_mem, beq_iff_eq]
  grind

end Reference

/-! ## Types -/

namespace JavaType

/-- The full names of the supertypes of the class behind the type or its elements. -/
def ancestors (t : JavaType) : List String := t.reference?.elim [] (·.ancestors)

/-- Whether two types inherit from the class with the given full name, or neither does. -/
def AgreeOn (fullName : String) (t u : JavaType) : Prop :=
  fullName ∈ t.ancestors ↔ fullName ∈ u.ancestors

variable {t u v w : JavaType}

theorem accepts_eq_of_agreeOn (ht : (t == u) = true) (hv : (v == w) = true)
    (h : ∀ r ∈ t.reference?, AgreeOn r.fullName v w) : t.accepts v = u.accepts w := by
  cases alike_of_beq ht with
  | void => rfl
  | primitive p =>
    cases alike_of_beq hv with
    | void | primitive | primitives | references => rfl
    | reference hv =>
      exact congrArg (Option.any (Primitive.widensTo · p)) (Reference.unboxed?_eq_of_beq hv)
  | @reference r s ht =>
    have hobject := Reference.isObject_eq_of_beq ht
    cases alike_of_beq hv with
    | void => rfl
    | primitive q =>
      change (r.isObject || r.unboxed? == some q) = (s.isObject || s.unboxed? == some q)
      rw [hobject, Reference.unboxed?_eq_of_beq ht]
    | reference hv => exact (Reference.accepts_eq_iff ht hv).2 (.inr (.inr (.inr (h r rfl))))
    | primitives | references => exact hobject
  | primitives p =>
    cases alike_of_beq hv with
    | void | primitive | primitives | references => rfl
    | reference hv => exact Reference.isNull_eq_of_beq hv
  | @references r s ht =>
    cases alike_of_beq hv with
    | void | primitive | primitives => rfl
    | reference hv => exact Reference.isNull_eq_of_beq hv
    | references hv => exact (Reference.accepts_eq_iff ht hv).2 (.inr (.inr (.inr (h r rfl))))

theorem isException_eq_of_agreeOn (h : (t == u) = true)
    (hname : AgreeOn Ancestry.exceptionClass t u) :
    t.isException = u.isException := by
  cases alike_of_beq h with
  | void | primitive | primitives | references => rfl
  | reference h => exact Reference.isSubtypeOf_eq_of_beq h hname

end JavaType

/-! ## What looks at types -/

theorem Assignment.isOk_make (target : VariableExpr) (source : Expr) :
    (make target source).isOk = target.type.accepts source.type := by
  unfold make
  split <;> simp_all [mismatch, Except.isOk, Except.toBool]

theorem MethodDraft.isOk_checkResult {draft : MethodDraft} {result : Expr}
    (h : draft.result = some result) (name : String) (returnType : JavaType) :
    (draft.checkResult name returnType).isOk = returnType.accepts result.type := by
  simp only [checkResult, h]
  split <;> simp_all [mismatch, Except.isOk, Except.toBool]

theorem MethodDraft.isOk_exceptionClass (type : JavaType) :
    (exceptionClass type).isOk = type.isException := by
  rw [exceptionClass, JavaType.isException, JavaType.isClassThat]
  cases type.singleReference? with
  | none => rfl
  | some r =>
    rw [Option.filter_some]
    cases h : r.isException <;> simp [h, reject, Except.isOk, Except.toBool]

theorem TryDraft.isOk_buildExecutable (caught : Declaration) (body : List Statement) :
    (buildExecutable (some (.declaration caught)) body).isOk = caught.type.isException := by
  cases h : caught.type.isException <;>
    simp [buildExecutable, given, require, reject, h, bind, Except.bind, pure, Except.pure,
      Except.isOk, Except.toBool]

/-- Equal types can stand for each other wherever the wanted class is a supertype of both values or
of neither: in slots, assignments and returned values, and in the same way, with the class of
exceptions, where an exception is declared or caught. Where two equal classes do not agree on the
wanted class, they are told apart, unless a rule decides that looks at no supertypes. -/
theorem equal_types_interchangeable :
    (∀ t u v w : JavaType, (t == u) = true → (v == w) = true →
      (∀ r ∈ t.reference?, JavaType.AgreeOn r.fullName v w) →
      t.accepts v = u.accepts w ∧
      (∀ (x y : VariableExpr) (e f : Expr), x.type = t → y.type = u → e.type = v → f.type = w →
        (Assignment.make x e).isOk = (Assignment.make y f).isOk) ∧
      ∀ (first second : MethodDraft) (name name' : String) (e f : Expr), first.result = some e →
        second.result = some f → e.type = v → f.type = w →
        (first.checkResult name t).isOk = (second.checkResult name' u).isOk) ∧
    (∀ t u : JavaType, (t == u) = true → JavaType.AgreeOn Ancestry.exceptionClass t u →
      t.isException = u.isException ∧
      (MethodDraft.exceptionClass t).isOk = (MethodDraft.exceptionClass u).isOk ∧
      ∀ (d d' : Declaration) (body body' : List Statement), d.type = t → d'.type = u →
        (TryDraft.buildExecutable (some (.declaration d)) body).isOk =
          (TryDraft.buildExecutable (some (.declaration d')) body').isOk) ∧
    ∀ r s v w : Reference, (r == s) = true → (v == w) = true →
      ((JavaType.ofReference r).accepts (.ofReference v) =
          (JavaType.ofReference s).accepts (.ofReference w) ↔
        v.isNull = true ∨ r.isObject = true ∨ v.fullName = r.fullName ∨
          JavaType.AgreeOn r.fullName (.ofReference v) (.ofReference w)) := by
  refine ⟨fun t u v w ht hv hname => ?_, fun t u h hname => ?_,
    fun r s v w hr hv => Reference.accepts_eq_iff hr hv⟩
  · have haccepts := JavaType.accepts_eq_of_agreeOn ht hv hname
    refine ⟨haccepts, ?_, ?_⟩
    · rintro x y e f rfl rfl rfl rfl
      rw [Assignment.isOk_make, Assignment.isOk_make, haccepts]
    · rintro first second name name' e f hfirst hsecond rfl rfl
      rw [MethodDraft.isOk_checkResult hfirst, MethodDraft.isOk_checkResult hsecond, haccepts]
  · have hexception := JavaType.isException_eq_of_agreeOn h hname
    refine ⟨hexception, ?_, ?_⟩
    · rw [MethodDraft.isOk_exceptionClass, MethodDraft.isOk_exceptionClass, hexception]
    · rintro d d' body body' rfl rfl
      rw [TryDraft.isOk_buildExecutable, TryDraft.isOk_buildExecutable, hexception]

/-- `Failure` as a class that declares its supertype, and as one that is generated with a parent:
both may be caught and thrown, and both are accepted as exceptions. -/
theorem equal_types_interchangeable_failure :
    let failure : ClassName := ⟨[], [], { text := "Failure" }⟩
    let declared : JavaType :=
      .ofReference (.compiled failure [] (Ancestry.ofDeclared ["java.io.IOException"]) false)
    let parent : Reference := .wellKnown (.javaLang { text := "RuntimeException" })
    let made : JavaType := .ofReference (.generated failure [] (some parent) false)
    let exception : JavaType := .ofClass (.javaLang { text := "Exception" })
    (declared == made) = true ∧ exception.accepts declared = exception.accepts made ∧
      declared.isException = made.isException := by
  intro failure declared parent made exception
  have hequal : (declared == made) = true := by decide
  have hagree : JavaType.AgreeOn Ancestry.exceptionClass declared made :=
    iff_of_true (by decide +kernel) (by decide +kernel)
  have hname : ∀ r ∈ exception.reference?, JavaType.AgreeOn r.fullName declared made := by
    intro r hr
    cases hr
    exact hagree
  obtain ⟨haccepts, hexception, -⟩ := equal_types_interchangeable
  exact ⟨hequal, (haccepts exception exception declared made (BEq.refl _) hequal hname).1,
    (hexception declared made hequal hagree).1⟩

/-- A class that declares that it inherits from `Exception` is equal to the same class of which
nothing is declared. A slot for exceptions accepts the one and not the other. -/
theorem equal_types_not_interchangeable :
    let failure : ClassName := ⟨[{ text := "com" }, { text := "foo" }], [], { text := "Failure" }⟩
    let declared : Reference :=
      .compiled failure [] ["java.lang.Exception", "java.lang.Throwable", "java.lang.Object"] false
    let bare : Reference := .compiled failure [] ["java.lang.Object"] false
    let exception : JavaType := .ofClass (.javaLang { text := "Exception" })
    { className := some "com.foo.Failure"
      supertypes := some ["java.lang.Exception"] : CompiledDraft }.build = .ok declared ∧
    { className := some "com.foo.Failure" : CompiledDraft }.build = .ok bare ∧
    (JavaType.ofReference declared == .ofReference bare) = true ∧
    exception.accepts (.ofReference declared) = true ∧
    exception.accepts (.ofReference bare) = false ∧
    (JavaType.ofReference declared).isException = true ∧
    (JavaType.ofReference bare).isException = false := by
  intro failure declared bare exception
  exact ⟨rfl, rfl, by decide, by decide, by decide, by decide, by decide⟩

end JavaSyntax
