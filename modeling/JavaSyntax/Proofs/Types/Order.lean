import JavaSyntax.JavaType.Draft
import JavaSyntax.Proofs.References.Ancestors
import JavaSyntax.Proofs.References.ClassNames
import JavaSyntax.Proofs.Types.Acceptance

/-!
# Acceptance is an order

Among classes without type arguments, and arrays of such classes, acceptance is an order: the type
of `null` is at the bottom, the class of everything at the top, and what lies between is ordered by
inheritance. Inheritance is read off a table, so this rests on two facts about it. A class in the
table inherits from whatever its supertypes inherit from, and none inherits from itself.
-/

set_option autoImplicit false

namespace JavaSyntax

/-! ## Inheritance -/

namespace Ancestry

theorem not_mem_of_mem_wellKnown : ∀ row ∈ wellKnown, row.1 ∉ row.2 := by decide +kernel

theorem nullClass_not_mem_of_mem_wellKnown : ∀ row ∈ wellKnown, nullClass ∉ row.2 := by
  decide +kernel

theorem not_mem_ofClass_self (name : String) : name ∉ ofClass name := by
  obtain hrow | ⟨hobject, hplain⟩ := mem_wellKnown_or_ofClass_eq name
  · exact not_mem_of_mem_wellKnown _ hrow
  · simpa [hplain, plain] using hobject

theorem nullClass_not_mem_ofClass (name : String) : nullClass ∉ ofClass name := by
  obtain hrow | ⟨-, hplain⟩ := mem_wellKnown_or_ofClass_eq name
  · exact nullClass_not_mem_of_mem_wellKnown _ hrow
  · rw [hplain]
    decide

/-- The order of classes by their full names: the type of `null` is below every class, every class
is below the class of everything, and a class is below those that it inherits from. -/
def Below (name target : String) : Prop :=
  name = nullClass ∨ target = objectClass ∨ name = target ∨ target ∈ ofClass name

variable {a b c : String}

theorem Below.eq_nullClass (h : Below a nullClass) : a = nullClass := by
  obtain rfl | hobject | rfl | hmem := h
  · rfl
  · exact absurd hobject (by decide)
  · rfl
  · exact absurd hmem (nullClass_not_mem_ofClass a)

theorem Below.eq_objectClass (h : Below objectClass a) : a = objectClass := by
  obtain hnull | rfl | rfl | hmem := h
  · exact absurd hnull (by decide)
  · rfl
  · rfl
  · cases hmem

theorem Below.trans (hab : Below a b) (hbc : Below b c) : Below a c := by
  obtain rfl | rfl | rfl | hb := hab
  · exact .inl rfl
  · exact .inr (.inl hbc.eq_objectClass)
  · exact hbc
  · obtain rfl | rfl | rfl | hc := hbc
    · exact absurd hb (nullClass_not_mem_ofClass a)
    · exact .inr (.inl rfl)
    · exact .inr (.inr (.inr hb))
    · exact .inr (.inr (.inr (mem_ofClass_trans hb hc)))

theorem Below.antisymm (hab : Below a b) (hba : Below b a) : a = b := by
  obtain rfl | rfl | rfl | hb := hab
  · exact hba.eq_nullClass.symm
  · exact hba.eq_objectClass
  · rfl
  · obtain rfl | rfl | rfl | ha := hba
    · exact absurd hb (nullClass_not_mem_ofClass a)
    · cases hb
    · rfl
    · exact absurd (mem_ofClass_trans hb ha) (not_mem_ofClass_self a)

end Ancestry

/-! ## Classes without type arguments -/

namespace Reference

variable {name other : String} {target value : Reference}

theorem isExactly_of_ofClass (h : ofClass name = .ok value) (fullName : String) :
    value.isExactly fullName = true ↔ name = fullName := by
  have harguments : value.arguments = [] := by
    obtain ⟨c, -, rfl⟩ := ofClass_eq_ok_iff.1 h
    rfl
  rw [isExactly, harguments, fullName_of_ofClass h]
  exact beq_iff_eq

/-- Acceptance between classes without type arguments is the order of their names. -/
theorem accepts_iff_below (htarget : ofClass other = .ok target)
    (hvalue : ofClass name = .ok value) :
    target.accepts value = true ↔ Ancestry.Below name other := by
  have hancestors : value.ancestors = Ancestry.ofClass name := by
    obtain ⟨c, -, rfl⟩ := ofClass_eq_ok_iff.1 hvalue
    rfl
  rw [accepts_iff, isNull, isObject, isExactly_of_ofClass hvalue, isExactly_of_ofClass htarget,
    isSubtypeOf, fullName_of_ofClass hvalue, fullName_of_ofClass htarget, hancestors,
    Bool.or_eq_true, beq_iff_eq, List.contains_iff_mem]
  rfl

/-- A full name leads to one class. -/
theorem eq_of_ofClass (h : ofClass name = .ok target) (h' : ofClass name = .ok value) :
    target = value :=
  Except.ok.inj (h.symm.trans h')

end Reference

/-! ## Types without type arguments -/

namespace JavaType

/-- The types that a full name leads to: a class without type arguments, or an array of one. -/
inductive IsRaw : JavaType → Prop where
  | single {name : String} {r : Reference} (h : Reference.ofClass name = .ok r) :
      IsRaw (ofReference r)
  | array {name : String} {r : Reference} {t : JavaType} (h : Reference.ofClass name = .ok r)
      (harray : (ofReference r).toArray = .ok t) : IsRaw t

/-- The place of a type in the order: the full name of its class, and whether it is an array. -/
inductive Named (name : String) : Bool → JavaType → Prop where
  | single {r : Reference} (h : Reference.ofClass name = .ok r) :
      Named name false (.single (.reference r))
  | array {r : Reference} (h : Reference.ofClass name = .ok r) :
      Named name true (.array (.reference r))

theorem IsRaw.exists_named {t : JavaType} (h : IsRaw t) : ∃ name isArray, Named name isArray t := by
  cases h with
  | single h => exact ⟨_, _, .single h⟩
  | array h harray =>
    cases harray
    exact ⟨_, _, .array h⟩

/-- The order of types by the names of their classes. An array is below an array of a higher class,
below the class of everything, and above the type of `null`. -/
def BelowAs (name : String) (isArray : Bool) (target : String) (intoArray : Bool) : Prop :=
  match isArray, intoArray with
  | false, false | true, true => Ancestry.Below name target
  | true, false => target = Ancestry.objectClass
  | false, true => name = Ancestry.nullClass

variable {name other last : String} {isArray isArray' isArray'' : Bool} {t v : JavaType}

theorem Named.accepts_iff (ht : Named other isArray' t) (hv : Named name isArray v) :
    t.accepts v = true ↔ BelowAs name isArray other isArray' := by
  cases ht with
  | single ht =>
    cases hv with
    | single hv => exact Reference.accepts_iff_below ht hv
    | array hv => exact Reference.isExactly_of_ofClass ht _
  | array ht =>
    cases hv with
    | single hv => exact Reference.isExactly_of_ofClass hv _
    | array hv => exact Reference.accepts_iff_below ht hv

/-- A name leads to one class and one array. -/
theorem Named.eq (ht : Named name isArray t) (hv : Named name isArray v) : t = v := by
  cases ht with
  | single ht => cases hv with | single hv => rw [Reference.eq_of_ofClass ht hv]
  | array ht => cases hv with | array hv => rw [Reference.eq_of_ofClass ht hv]

theorem BelowAs.trans (h : BelowAs name isArray other isArray')
    (h' : BelowAs other isArray' last isArray'') : BelowAs name isArray last isArray'' := by
  cases isArray <;> cases isArray' <;> cases isArray''
  case false.false.false | true.true.true => exact Ancestry.Below.trans h h'
  -- Only the class of everything is above an array that is no array itself.
  case false.true.false => exact .inr (.inl h')
  case true.false.false =>
    subst h
    exact Ancestry.Below.eq_objectClass h'
  case true.true.false => exact h'
  -- Only the type of `null` is below an array and no array itself.
  case false.true.true => exact h
  case false.false.true =>
    subst h'
    exact Ancestry.Below.eq_nullClass h
  case true.false.true => exact absurd (h.symm.trans h') (by decide)

theorem BelowAs.antisymm (h : BelowAs name isArray other isArray')
    (h' : BelowAs other isArray' name isArray) : name = other ∧ isArray = isArray' := by
  cases isArray <;> cases isArray'
  case false.false | true.true => exact ⟨Ancestry.Below.antisymm h h', rfl⟩
  case false.true => exact absurd (h.symm.trans h') (by decide)
  case true.false => exact absurd (h'.symm.trans h) (by decide)

/-- Acceptance is an order on the types that full names lead to: it is reflexive and transitive, and
types that accept each other are equal. -/
theorem accepts_order_of_isRaw :
    (∀ t : JavaType, t.IsRaw → t.accepts t = true) ∧
    (∀ a b c : JavaType, a.IsRaw → b.IsRaw → c.IsRaw → b.accepts a = true → c.accepts b = true →
      c.accepts a = true) ∧
    ∀ a b : JavaType, a.IsRaw → b.IsRaw → b.accepts a = true → a.accepts b = true →
      (a == b) = true := by
  refine ⟨fun t ht => ?_, fun a b c ha hb hc hab hbc => ?_, fun a b ha hb hab hba => ?_⟩
  · obtain ⟨name, isArray, hname⟩ := ht.exists_named
    exact accepts_self (by cases hname <;> rfl)
  · obtain ⟨_, _, ha⟩ := ha.exists_named
    obtain ⟨_, _, hb⟩ := hb.exists_named
    obtain ⟨_, _, hc⟩ := hc.exists_named
    exact (hc.accepts_iff ha).2 (((hb.accepts_iff ha).1 hab).trans ((hc.accepts_iff hb).1 hbc))
  · obtain ⟨_, _, ha⟩ := ha.exists_named
    obtain ⟨_, _, hb⟩ := hb.exists_named
    obtain ⟨rfl, rfl⟩ := ((hb.accepts_iff ha).1 hab).antisymm ((ha.accepts_iff hb).1 hba)
    rw [ha.eq hb]
    exact BEq.refl b

/-- Arrays of lists accept arrays of array lists, and arrays of anything accept arrays of lists; so
arrays of anything accept arrays of array lists. A class that the table does not hold accepts
itself, and is equal to what it accepts and is accepted by. -/
theorem accepts_order_of_isRaw_lists :
    let made (fullName : String) (c : ClassName) : Reference :=
      .compiled c [] (Ancestry.ofClass fullName) false
    let arrayLists : JavaType := .array (.reference (made "java.util.ArrayList" .arrayList))
    let lists : JavaType :=
      .array (.reference (made "java.util.List" (.javaUtil { text := "List" })))
    let objects : JavaType := .array (.reference (made "java.lang.Object" .object))
    let shape : JavaType := .ofReference (made "Shape" ⟨[], [], { text := "Shape" }⟩)
    arrayLists.IsRaw ∧ lists.IsRaw ∧ objects.IsRaw ∧ shape.IsRaw ∧
      lists.accepts arrayLists = true ∧ objects.accepts lists = true ∧
      objects.accepts arrayLists = true ∧ shape.accepts shape = true ∧ (shape == shape) = true := by
  intro made arrayLists lists objects shape
  have harrayLists : arrayLists.IsRaw :=
    .array (show Reference.ofClass "java.util.ArrayList" = .ok _ from rfl) rfl
  have hlists : lists.IsRaw :=
    .array (show Reference.ofClass "java.util.List" = .ok _ from rfl) rfl
  have hobjects : objects.IsRaw :=
    .array (show Reference.ofClass "java.lang.Object" = .ok _ from rfl) rfl
  have hshape : shape.IsRaw := .single (show Reference.ofClass "Shape" = .ok _ from rfl)
  have hlower : lists.accepts arrayLists = true := by decide +kernel
  have hupper : objects.accepts lists = true := by decide +kernel
  obtain ⟨hrefl, htrans, hantisymm⟩ := accepts_order_of_isRaw
  have hself := hrefl shape hshape
  exact ⟨harrayLists, hlists, hobjects, hshape, hlower, hupper,
    htrans _ _ _ harrayLists hlists hobjects hlower hupper, hself,
    hantisymm shape shape hshape hshape hself hself⟩

end JavaType

end JavaSyntax
