import JavaSyntax.JavaType.Basic

/-!
# Equality of types

Equal references name the same class with equal type arguments, but need not be the same: what is
known of the supertypes may differ. Equality of references, and with it equality of types, is an
equivalence all the same, and it respects every property of a type that does not look at
supertypes.
-/

set_option autoImplicit false

namespace JavaSyntax

/-! ## References -/

namespace Reference

mutual
theorem beq_self : ∀ r : Reference, (r == r) = true
  | wildcard as => beq_iff.2 ⟨rfl, arguments_beq_self as⟩
  | compiled _ as _ _ => beq_iff.2 ⟨rfl, arguments_beq_self as⟩
  | generated _ as _ _ => beq_iff.2 ⟨rfl, arguments_beq_self as⟩

theorem arguments_beq_self : ∀ rs : List Reference, (rs == rs) = true
  | [] => rfl
  | r :: rs => by rw [List.cons_beq_cons, beq_self r, arguments_beq_self rs]; rfl
end

/-- Two references that are equal to a third one are equal if their arguments are. -/
theorem beq_of_arguments {r s t : Reference} (hs : (r == s) = true) (ht : (r == t) = true)
    (h : (r.arguments == s.arguments) = true → (r.arguments == t.arguments) = true →
      (s.arguments == t.arguments) = true) : (s == t) = true := by
  obtain ⟨hclass, has⟩ := beq_iff.1 hs
  obtain ⟨hclass', hat⟩ := beq_iff.1 ht
  exact beq_iff.2 ⟨hclass.symm.trans hclass', h has hat⟩

mutual
/-- What is equal to one reference is equal to each other. -/
theorem beq_of_beq_of_beq : ∀ r s t : Reference, (r == s) = true → (r == t) = true →
    (s == t) = true
  | wildcard as, _, _, hs, ht => beq_of_arguments hs ht (arguments_beq_of_beq_of_beq as _ _)
  | compiled _ as _ _, _, _, hs, ht =>
    beq_of_arguments hs ht (arguments_beq_of_beq_of_beq as _ _)
  | generated _ as _ _, _, _, hs, ht =>
    beq_of_arguments hs ht (arguments_beq_of_beq_of_beq as _ _)

theorem arguments_beq_of_beq_of_beq : ∀ rs ss ts : List Reference, (rs == ss) = true →
    (rs == ts) = true → (ss == ts) = true
  | [], [], [], _, _ => rfl
  | r :: rs, s :: ss, t :: ts, hs, ht => by
    rw [List.cons_beq_cons, Bool.and_eq_true] at hs ht ⊢
    exact ⟨beq_of_beq_of_beq r s t hs.1 ht.1, arguments_beq_of_beq_of_beq rs ss ts hs.2 ht.2⟩
  | [], _ :: _, _, hs, _ => by simp at hs
  | [], _, _ :: _, _, ht => by simp at ht
  | _ :: _, [], _, hs, _ => by simp at hs
  | _ :: _, _, [], _, ht => by simp at ht
end

instance : EquivBEq Reference where
  rfl := beq_self _
  symm h := beq_of_beq_of_beq _ _ _ h (beq_self _)
  trans h h' := beq_of_beq_of_beq _ _ _ (beq_of_beq_of_beq _ _ _ h (beq_self _)) h'

variable {r s : Reference}

theorem fullName_eq_of_beq (h : (r == s) = true) : r.fullName = s.fullName :=
  congrArg (Option.elim · wildcardName ClassName.fullName) (beq_iff.1 h).1

theorem isExactly_eq_of_beq (h : (r == s) = true) (fullName : String) :
    r.isExactly fullName = s.isExactly fullName := by
  have hempty : r.arguments.isEmpty = s.arguments.isEmpty := by
    have harguments := (beq_iff.1 h).2
    cases hr : r.arguments <;> cases hs : s.arguments <;> simp [hr, hs] at harguments ⊢
  rw [isExactly, isExactly, hempty, fullName_eq_of_beq h]

theorem unboxed?_eq_of_beq (h : (r == s) = true) : r.unboxed? = s.unboxed? := by
  have hclass := (beq_iff.1 h).1
  have hpackage : r.packageName = s.packageName := by rw [packageName, packageName, hclass]
  have henclosing : r.enclosing = s.enclosing := by rw [enclosing, enclosing, hclass]
  have hname : r.name = s.name := by rw [name, name, hclass]
  rw [unboxed?, unboxed?, hpackage, henclosing, hname]

end Reference

/-! ## Types -/

namespace JavaType

/-- Types of one form, made from the same primitive type or from equal references. -/
inductive Alike : JavaType → JavaType → Prop where
  | void : Alike void void
  | primitive (p : Primitive) : Alike (single (.primitive p)) (single (.primitive p))
  | reference {r s : Reference} (h : (r == s) = true) :
      Alike (single (.reference r)) (single (.reference s))
  | primitives (p : Primitive) : Alike (array (.primitive p)) (array (.primitive p))
  | references {r s : Reference} (h : (r == s) = true) :
      Alike (array (.reference r)) (array (.reference s))

theorem alike_of_beq {t u : JavaType} (h : (t == u) = true) : Alike t u := by
  rcases t with _ | (p | r) | (p | r) <;> rcases u with _ | (q | s) | (q | s)
  -- Types of different forms are told apart before anything is compared.
  all_goals first | exact absurd h Bool.false_ne_true | skip
  case void.void => exact .void
  case single.primitive.single.primitive =>
    obtain rfl : p = q := eq_of_beq h
    exact .primitive p
  case single.reference.single.reference => exact .reference h
  case array.primitive.array.primitive =>
    obtain rfl : p = q := eq_of_beq h
    exact .primitives p
  case array.reference.array.reference => exact .references h

theorem beq_of_alike {t u : JavaType} (h : Alike t u) : (t == u) = true := by
  cases h with
  | void => rfl
  | primitive p | primitives p => exact beq_self_eq_true p
  | reference h | references h => exact h

theorem alike_self (t : JavaType) : Alike t t := by
  rcases t with _ | (p | r) | (p | r)
  · exact .void
  · exact .primitive p
  · exact .reference r.beq_self
  · exact .primitives p
  · exact .references r.beq_self

theorem Alike.symm {t u : JavaType} (h : Alike t u) : Alike u t := by
  cases h with
  | void => exact .void
  | primitive p => exact .primitive p
  | reference h => exact .reference (BEq.symm h)
  | primitives p => exact .primitives p
  | references h => exact .references (BEq.symm h)

theorem Alike.trans {t u v : JavaType} (h : Alike t u) (h' : Alike u v) : Alike t v := by
  cases h with
  | void | primitive | primitives => exact h'
  | reference h => cases h' with | reference h' => exact .reference (BEq.trans h h')
  | references h => cases h' with | references h' => exact .references (BEq.trans h h')

instance : EquivBEq JavaType where
  rfl := beq_of_alike (alike_self _)
  symm h := beq_of_alike (alike_of_beq h).symm
  trans h h' := beq_of_alike ((alike_of_beq h).trans (alike_of_beq h'))

namespace Alike

variable {t u : JavaType}

theorem isVoid_eq (h : Alike t u) : t.isVoid = u.isVoid := by cases h <;> rfl

theorem isArray_eq (h : Alike t u) : t.isArray = u.isArray := by cases h <;> rfl

theorem isReference_eq (h : Alike t u) : t.isReference = u.isReference := by cases h <;> rfl

/-- Equal types are of one class together. -/
theorem isClassThat_isExactly_eq (h : Alike t u) (fullName : String) :
    t.isClassThat (·.isExactly fullName) = u.isClassThat (·.isExactly fullName) := by
  cases h with
  | void | primitive | primitives | references => rfl
  | reference h => exact Reference.isExactly_eq_of_beq h fullName

theorem isNull_eq (h : Alike t u) : t.isNull = u.isNull :=
  h.isClassThat_isExactly_eq Ancestry.nullClass

theorem isObject_eq (h : Alike t u) : t.isObject = u.isObject :=
  h.isClassThat_isExactly_eq Ancestry.objectClass

theorem unboxed?_eq (h : Alike t u) : t.unboxed? = u.unboxed? := by
  cases h with
  | void | primitive | primitives | references => rfl
  | reference h => exact Reference.unboxed?_eq_of_beq h

theorem isNumeric_eq (h : Alike t u) : t.isNumeric = u.isNumeric := by
  rw [isNumeric, isNumeric, h.unboxed?_eq]

theorem isBoolean_eq (h : Alike t u) : t.isBoolean = u.isBoolean := by
  rw [isBoolean, isBoolean, h.unboxed?_eq]

end Alike

end JavaType

end JavaSyntax
