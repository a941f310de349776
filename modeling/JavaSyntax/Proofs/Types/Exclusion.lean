import JavaSyntax.JavaType.Basic

/-!
# Types that exclude each other

The type of `null`, the class of everything, the classes that box primitive types, and arrays have
rules of their own in conversion and comparison. No type is of two of these kinds, since a class has
one full name.
-/

set_option autoImplicit false

namespace JavaSyntax

/-! ## Classes -/

namespace Reference

variable {r : Reference}

/-- A class that boxes a primitive type is known by its full name. -/
theorem fullName_of_unboxed? {p : Primitive} (h : r.unboxed? = some p) :
    r.fullName = "java.lang." ++ p.boxedName := by
  unfold unboxed? at h
  split at h
  · next hplace =>
    rw [Bool.and_eq_true, beq_iff_eq, List.isEmpty_iff] at hplace
    obtain ⟨hpackage, henclosing⟩ := hplace
    have hname : p.boxedName = r.name := by
      simpa using List.find?_some h
    cases hclass : r.className? with
    | none => simp [packageName, hclass] at hpackage
    | some c =>
      simp only [packageName, enclosing, name, hclass, Option.elim] at hpackage henclosing hname
      simp [fullName, hclass, ClassName.fullName, ClassName.simpleName, hpackage, henclosing, hname,
        dotted_singleton, qualify]
  · simp at h

theorem fullName_of_isExactly {name : String} (h : r.isExactly name = true) :
    r.fullName = name := by
  rw [isExactly, Bool.and_eq_true, beq_iff_eq] at h
  exact h.2

/-- A class with another full name boxes nothing. -/
theorem unboxed?_of_isExactly {name : String} (h : r.isExactly name = true)
    (hname : ∀ p : Primitive, name ≠ "java.lang." ++ p.boxedName) : r.unboxed? = none := by
  cases hp : r.unboxed? with
  | none => rfl
  | some p => exact absurd ((fullName_of_isExactly h).symm.trans (fullName_of_unboxed? hp)) (hname p)

theorem unboxed?_of_isNull (h : r.isNull = true) : r.unboxed? = none :=
  unboxed?_of_isExactly h fun p => by cases p <;> decide

theorem unboxed?_of_isObject (h : r.isObject = true) : r.unboxed? = none :=
  unboxed?_of_isExactly h fun p => by cases p <;> decide

/-- A class has one full name. -/
theorem isExactly_eq_false {name other : String} (h : r.isExactly name = true)
    (hne : name ≠ other) : r.isExactly other = false := by
  rw [isExactly, fullName_of_isExactly h, beq_false_of_ne hne, Bool.and_false]

end Reference

/-! ## Types -/

namespace JavaType

variable {t : JavaType}

theorem exists_reference_of_isClassThat {property : Reference → Bool}
    (h : t.isClassThat property = true) :
    ∃ r, t = single (.reference r) ∧ property r = true := by
  rcases t with _ | (_ | r) | _ <;>
    simp [isClassThat, singleReference?] at h ⊢
  exact h

/-- The type of `null` is no other type that comparison speaks of. -/
theorem of_isNull (h : t.isNull = true) :
    t.isReference = true ∧ t.isArray = false ∧ t.isObject = false ∧ t.unboxed? = none := by
  obtain ⟨r, rfl, hr⟩ := exists_reference_of_isClassThat h
  exact ⟨rfl, rfl, Reference.isExactly_eq_false hr (by decide), Reference.unboxed?_of_isNull hr⟩

theorem of_isObject (h : t.isObject = true) :
    t.isReference = true ∧ t.isArray = false ∧ t.isNull = false ∧ t.unboxed? = none := by
  obtain ⟨r, rfl, hr⟩ := exists_reference_of_isClassThat h
  exact ⟨rfl, rfl, Reference.isExactly_eq_false hr (by decide), Reference.unboxed?_of_isObject hr⟩

theorem of_isArray (h : t.isArray = true) :
    t.isReference = true ∧ t.isNull = false ∧ t.isObject = false ∧ t.unboxed? = none := by
  cases t with
  | void | single => cases h
  | array e => exact ⟨rfl, rfl, rfl, rfl⟩

/-- What boxes a primitive type, or is one, is not the type of `null`. -/
theorem isNull_of_unboxed? (h : t.unboxed? ≠ none) : t.isNull = false := by
  cases hnull : t.isNull with
  | false => rfl
  | true => exact absurd (of_isNull hnull).2.2.2 h

theorem unboxed?_of_isNumeric (h : t.isNumeric = true) : t.unboxed? ≠ none := by
  intro hnone
  simp [isNumeric, hnone] at h

theorem unboxed?_of_isBoolean (h : t.isBoolean = true) : t.unboxed? ≠ none := by
  intro hnone
  simp [isBoolean, hnone] at h

end JavaType

end JavaSyntax
