import JavaSyntax.JavaType.Draft
import JavaSyntax.Proofs.Types.Equality

/-!
# Arrays and their elements

A type records whether it is an array, but not of how many dimensions. So making an array and taking
its element are inverse between the types that are not arrays and those that are, with `void` left
out, since it has no array. An array of arrays is made all the same: it is the array that it was
made of, and its elements are not arrays.
-/

set_option autoImplicit false

namespace JavaSyntax

/-! ## Making an array -/

namespace JavaType

variable {t u : JavaType}

/-- The array keeps what there is many of, and nothing else of the type. -/
theorem toArray_eq_ok_iff : t.toArray = .ok u ↔ ∃ e, t.element? = some e ∧ u = array e := by
  rcases t with _ | (p | r) | (p | r)
  case void => simp [toArray, toDraft, TypeDraft.build, kind, reference?, element?, reject]
  all_goals
    simp [toArray, toDraft, TypeDraft.build, kind, reference?, element?, eq_comm]

theorem exists_element?_iff : (∃ e, t.element? = some e) ↔ t.isVoid = false := by
  cases t <;> simp [element?, isVoid]

/-- A type that is no array is known by what there is one of. -/
theorem eq_single_of_element? {e : ElementType} (ht : t.isArray = false)
    (he : t.element? = some e) : t = single e := by
  cases t <;> simp [element?, isArray] at ht he ⊢
  exact he

/-- Everything but `void` has an array. -/
theorem exists_toArray_eq_ok_iff : (∃ u, t.toArray = .ok u) ↔ t.isVoid = false := by
  rw [← exists_element?_iff]
  simp only [toArray_eq_ok_iff]
  exact ⟨fun ⟨_, e, h, _⟩ => ⟨e, h⟩, fun ⟨e, h⟩ => ⟨_, e, h, rfl⟩⟩

theorem isArray_iff : t.isArray = true ↔ ∃ e, t = array e := by
  cases t <;> simp [isArray]

theorem isArray_of_toArray (h : t.toArray = .ok u) : u.isArray = true := by
  obtain ⟨e, -, rfl⟩ := toArray_eq_ok_iff.1 h
  rfl

theorem elementType?_eq_some_iff : u.elementType? = some t ↔ ∃ e, u = array e ∧ t = single e := by
  cases u <;> simp [elementType?, eq_comm]

theorem exists_elementType?_iff : (∃ t, u.elementType? = some t) ↔ u.isArray = true := by
  cases u <;> simp [elementType?, isArray]

/-- The elements of an array are no arrays. -/
theorem isArray_of_elementType? (h : u.elementType? = some t) : t.isArray = false := by
  obtain ⟨e, -, rfl⟩ := elementType?_eq_some_iff.1 h
  rfl

/-! ### Back and forth -/

/-- The array of what is no array has it as its element. -/
theorem elementType?_of_toArray (ht : t.isArray = false) (h : t.toArray = .ok u) :
    u.elementType? = some t := by
  obtain ⟨e, he, rfl⟩ := toArray_eq_ok_iff.1 h
  obtain rfl : t = single e := eq_single_of_element? ht he
  rfl

/-- The array of an array is that array. -/
theorem toArray_of_isArray (ht : t.isArray = true) : t.toArray = .ok t := by
  obtain ⟨e, rfl⟩ := isArray_iff.1 ht
  exact toArray_eq_ok_iff.2 ⟨e, rfl, rfl⟩

/-- An array is the array of its element. -/
theorem toArray_of_elementType? (h : u.elementType? = some t) : t.toArray = .ok u := by
  obtain ⟨e, rfl, rfl⟩ := elementType?_eq_some_iff.1 h
  exact toArray_eq_ok_iff.2 ⟨e, rfl, rfl⟩

/-- What an array has as its element is equal to what it was made of unless that is an array. -/
theorem beq_elementType?_of_toArray (h : t.toArray = .ok u) :
    (∃ e, u.elementType? = some e ∧ (e == t) = true) ↔ t.isArray = false := by
  constructor
  · rintro ⟨e, he, hequal⟩
    rw [← (alike_of_beq hequal).isArray_eq, isArray_of_elementType? he]
  · intro ht
    exact ⟨t, elementType?_of_toArray ht h, BEq.refl t⟩

/-- An array is equal to what it was made of exactly if that is an array. -/
theorem beq_of_toArray_iff (h : t.toArray = .ok u) : (u == t) = true ↔ t.isArray = true := by
  constructor
  · intro hequal
    rw [← (alike_of_beq hequal).isArray_eq, isArray_of_toArray h]
  · intro ht
    obtain rfl : t = u := by simpa [toArray_of_isArray ht] using h
    exact BEq.refl t

/-- Making an array and taking its element are inverse, except that an array is its own array. -/
theorem toArray_elementType?_inverse (t : JavaType) :
    ((∃ u, t.toArray = .ok u) ↔ t.isVoid = false) ∧
      (∀ u, t.toArray = .ok u →
        ((∃ e, u.elementType? = some e ∧ (e == t) = true) ↔ t.isArray = false) ∧
        (t.isArray = false → u.elementType? = some t) ∧
        ((u == t) = true ↔ t.isArray = true)) ∧
      (t.isArray = true → ∃ e, t.elementType? = some e ∧ e.toArray = .ok t) := by
  refine ⟨exists_toArray_eq_ok_iff, fun u h => ?_, fun ht => ?_⟩
  · exact ⟨beq_elementType?_of_toArray h, fun ht => elementType?_of_toArray ht h,
      beq_of_toArray_iff h⟩
  · obtain ⟨e, he⟩ := exists_elementType?_iff.2 ht
    exact ⟨e, he, toArray_of_elementType? he⟩

/-- Integers and their arrays are each other's elements and arrays. -/
theorem toArray_elementType?_inverse_int :
    (ofPrimitive .int).toArray = .ok (array (.primitive .int)) ∧
      (array (.primitive .int)).elementType? = some (ofPrimitive .int) ∧
      (array (.primitive .int)).isArray = true ∧
      ∃ e, (array (.primitive .int)).elementType? = some e ∧
        e.toArray = .ok (array (.primitive .int)) :=
  ⟨rfl, ((toArray_elementType?_inverse (ofPrimitive .int)).2.1 _ rfl).2.1 rfl, rfl,
    (toArray_elementType?_inverse (array (.primitive .int))).2.2 rfl⟩

/-- An array of arrays of integers is made, and it is the array of integers. -/
theorem toArray_array_int :
    (array (.primitive .int)).toArray = .ok (array (.primitive .int)) ∧
      ¬ ∃ e, (array (.primitive .int)).elementType? = some e ∧
        (e == array (.primitive .int)) = true := by
  refine ⟨rfl, ?_⟩
  rintro ⟨e, he, hequal⟩
  obtain rfl : ofPrimitive .int = e := Option.some.inj he
  exact Bool.noConfusion hequal

end JavaType

end JavaSyntax
