import JavaSyntax.Expr.Operation
import JavaSyntax.Proofs.Types.Equality
import JavaSyntax.Proofs.Types.Exclusion
import Mathlib.Logic.Basic

/-!
# What can be compared

The rules of comparison are tried in an order, and the first one that speaks of two types decides.
The order does not matter: two types can be compared if and only if one of the ways of `Comparable`
is open to them. So neither the operator nor the side of an operand plays a part, and operands of
equal types can stand for each other.
-/

set_option autoImplicit false

namespace JavaSyntax

namespace JavaType

/-- The ways in which values of two types can be compared. -/
inductive Comparable (left right : JavaType) : Prop where
  /-- Every object can be compared with `null`. -/
  | null
      (h : left.isNull = true ∧ right.isReference = true ∨
        right.isNull = true ∧ left.isReference = true)
  | numbers (hleft : left.isNumeric = true) (hright : right.isNumeric = true)
  | truthValues (hleft : left.isBoolean = true) (hright : right.isBoolean = true)
  | arrays (hleft : left.isArray = true) (hright : right.isArray = true)
      (h : (left.elementType? == right.elementType?) = true)
  /-- Every object but an array can be compared with one of which nothing is known. -/
  | object (hleft : left.isArray = false) (hright : right.isArray = false)
      (h : left.isObject = true ∧ right.isReference = true ∨
        right.isObject = true ∧ left.isReference = true)
  | equal (hleft : left.isArray = false) (hright : right.isArray = false)
      (hl : left.isReference = true) (hr : right.isReference = true) (h : (left == right) = true)

variable {left right : JavaType} {hasBareObject : Bool}

/-- The rule that decides is a way to compare the two types. -/
theorem comparable_of_isComparableWith
    (hbare : hasBareObject = true → left.isObject = true ∨ right.isObject = true)
    (h : left.isComparableWith right hasBareObject = true) :
    left.isVoid = false ∧ right.isVoid = false ∧ Comparable left right := by
  unfold isComparableWith at h
  obtain ⟨-, h⟩ | ⟨hvoid, h⟩ := ite_eq_iff.1 h
  · cases h
  rw [Bool.or_eq_true, not_or, Bool.not_eq_true, Bool.not_eq_true] at hvoid
  refine ⟨hvoid.1, hvoid.2, ?_⟩
  obtain ⟨hnull, h⟩ | ⟨-, h⟩ := ite_eq_iff.1 h
  · exact .null (.inl ⟨hnull, h⟩)
  obtain ⟨hnull, h⟩ | ⟨-, h⟩ := ite_eq_iff.1 h
  · exact .null (.inr ⟨hnull, h⟩)
  obtain ⟨hnumbers, -⟩ | ⟨-, h⟩ := ite_eq_iff.1 h
  · rw [Bool.and_eq_true] at hnumbers
    exact .numbers hnumbers.1 hnumbers.2
  obtain ⟨hbooleans, -⟩ | ⟨-, h⟩ := ite_eq_iff.1 h
  · rw [Bool.and_eq_true] at hbooleans
    exact .truthValues hbooleans.1 hbooleans.2
  obtain ⟨-, h⟩ | ⟨-, h⟩ := ite_eq_iff.1 h
  · cases h
  obtain ⟨harrays, h⟩ | ⟨hnotBoth, h⟩ := ite_eq_iff.1 h
  · rw [Bool.and_eq_true] at harrays
    exact .arrays harrays.1 harrays.2 h
  obtain ⟨-, h⟩ | ⟨hnotOne, h⟩ := ite_eq_iff.1 h
  · cases h
  have hneither : ∀ l r : Bool, ¬(l && r) = true → ¬(l != r) = true → l = false ∧ r = false := by
    decide
  have hnone := hneither _ _ hnotBoth hnotOne
  obtain ⟨hobject, h⟩ | ⟨hleft, h⟩ := ite_eq_iff.1 h
  · exact .object hnone.1 hnone.2 (.inl ⟨hobject, h⟩)
  obtain ⟨hobject, h⟩ | ⟨hright, h⟩ := ite_eq_iff.1 h
  · exact .object hnone.1 hnone.2 (.inr ⟨hobject, h⟩)
  obtain ⟨hreferences, h⟩ | ⟨-, h⟩ := ite_eq_iff.1 h
  · rw [Bool.and_eq_true] at hreferences
    rw [Bool.or_eq_true] at h
    -- Neither type is the class of everything any more, so no operand is a bare object.
    have hequal : (left == right) = true := h.resolve_right fun hb => (hbare hb).elim hleft hright
    exact .equal hnone.1 hnone.2 hreferences.1 hreferences.2 hequal
  · cases h

/-- No earlier rule refuses two types that can be compared in some way. -/
theorem isComparableWith_of_comparable (hleft : left.isVoid = false) (hright : right.isVoid = false)
    (h : Comparable left right) : left.isComparableWith right hasBareObject = true := by
  cases h with
  | null h =>
    obtain ⟨hnull, hreference⟩ | ⟨hnull, hreference⟩ := h
    · simp [isComparableWith, hleft, hright, hnull, hreference]
    · have hother := (of_isNull hnull).1
      simp [isComparableWith, hleft, hright, hnull, hreference, hother]
  | numbers hl hr =>
    have hln := isNull_of_unboxed? (unboxed?_of_isNumeric hl)
    have hrn := isNull_of_unboxed? (unboxed?_of_isNumeric hr)
    simp [isComparableWith, hleft, hright, hln, hrn, hl, hr]
  | truthValues hl hr =>
    have hln := isNull_of_unboxed? (unboxed?_of_isBoolean hl)
    have hrn := isNull_of_unboxed? (unboxed?_of_isBoolean hr)
    simp [isComparableWith, hleft, hright, hln, hrn, hl, hr]
  | arrays hl hr h =>
    obtain ⟨-, hln, -, hlu⟩ := of_isArray hl
    obtain ⟨-, hrn, -, hru⟩ := of_isArray hr
    simp [isComparableWith, hleft, hright, hln, hrn, hl, hr, h, isNumeric, isBoolean, hlu, hru]
  | object hl hr h =>
    obtain ⟨hobject, hreference⟩ | ⟨hobject, hreference⟩ := h
    · obtain ⟨hother, -, hn, hu⟩ := of_isObject hobject
      simp [isComparableWith, hleft, hright, hn, hl, hr, hobject, hreference, hother, isNumeric, hu]
    · obtain ⟨hother, -, hn, hu⟩ := of_isObject hobject
      simp [isComparableWith, hleft, hright, hn, hl, hr, hobject, hreference, hother, isNumeric, hu]
  | equal hl hr hl' hr' h =>
    have hboolean := (alike_of_beq h).isBoolean_eq
    simp [isComparableWith, hleft, hright, hl, hr, hl', hr', h, hboolean]

theorem elementType?_beq (hleft : left.isArray = true) (hright : right.isArray = true) :
    (left.elementType? == right.elementType?) = (left == right) := by
  cases left with
  | void | single => cases hleft
  | array e =>
    cases right with
    | void | single => cases hright
    | array f => rfl

theorem Comparable.symm (h : Comparable left right) : Comparable right left := by
  cases h with
  | null h => exact .null h.symm
  | numbers hl hr => exact .numbers hr hl
  | truthValues hl hr => exact .truthValues hr hl
  | arrays hl hr h =>
    rw [elementType?_beq hl hr] at h
    exact .arrays hr hl ((elementType?_beq hr hl).trans (BEq.symm h))
  | object hl hr h => exact .object hr hl h.symm
  | equal hl hr hl' hr' h => exact .equal hr hl hr' hl' (BEq.symm h)

/-- Whether types can be compared does not change when equal types take their places. -/
theorem Comparable.replace {left' right' : JavaType} (hl : (left' == left) = true)
    (hr : (right' == right) = true) (h : Comparable left right) : Comparable left' right' := by
  have hleft := alike_of_beq hl
  have hright := alike_of_beq hr
  have hequal : (left' == right') = (left == right) :=
    (BEq.congr_left hl).trans (BEq.congr_right hr)
  cases h with
  | null h =>
    rw [← hleft.isNull_eq, ← hright.isNull_eq, ← hleft.isReference_eq, ← hright.isReference_eq] at h
    exact .null h
  | numbers hl hr => exact .numbers (hleft.isNumeric_eq.trans hl) (hright.isNumeric_eq.trans hr)
  | truthValues hl hr =>
    exact .truthValues (hleft.isBoolean_eq.trans hl) (hright.isBoolean_eq.trans hr)
  | arrays hl hr h =>
    have hl' := hleft.isArray_eq.trans hl
    have hr' := hright.isArray_eq.trans hr
    rw [elementType?_beq hl hr, ← hequal, ← elementType?_beq hl' hr'] at h
    exact .arrays hl' hr' h
  | object hl hr h =>
    rw [← hleft.isObject_eq, ← hright.isObject_eq, ← hleft.isReference_eq,
      ← hright.isReference_eq] at h
    exact .object (hleft.isArray_eq.trans hl) (hright.isArray_eq.trans hr) h
  | equal hl hr hl' hr' h =>
    exact .equal (hleft.isArray_eq.trans hl) (hright.isArray_eq.trans hr)
      (hleft.isReference_eq.trans hl') (hright.isReference_eq.trans hr') (hequal.trans h)

end JavaType

/-! ## Operands -/

namespace Expr

theorem isObject_of_isBareObject {e : Expr} (h : e.isBareObject = true) :
    e.type.isObject = true := by
  cases e with
  | create type arguments isDiamond => exact h
  | _ => cases h

theorem checkComparable_eq_ok_iff {operator : Comparison} {left right : Expr} :
    checkComparable operator left right = .ok () ↔
      left.type.isVoid = false ∧ right.type.isVoid = false ∧
        JavaType.Comparable left.type right.type := by
  have hbare : (left.isBareObject || right.isBareObject) = true →
      left.type.isObject = true ∨ right.type.isObject = true := by
    rw [Bool.or_eq_true]
    exact Or.imp isObject_of_isBareObject isObject_of_isBareObject
  have hrules : left.type.isComparableWith right.type
      (left.isBareObject || right.isBareObject) = true ↔ _ :=
    ⟨JavaType.comparable_of_isComparableWith hbare,
      fun h => JavaType.isComparableWith_of_comparable h.1 h.2.1 h.2.2⟩
  rw [← hrules, checkComparable]
  split
  · next h => simp [h]
  · next h => simp [h, mismatch]

/-- Operands can be compared exactly if neither is without value and their types go together in
one of the ways of `Comparable`, whatever the operator, the sides on which they stand, and the
expressions that have these types. -/
theorem checkComparable_iff_comparable (operator : Comparison) (left right : Expr) :
    (checkComparable operator left right = .ok () ↔
      left.type.isVoid = false ∧ right.type.isVoid = false ∧
        JavaType.Comparable left.type right.type) ∧
    (∀ other : Comparison,
      checkComparable other left right = .ok () ↔ checkComparable operator left right = .ok ()) ∧
    (checkComparable operator right left = .ok () ↔ checkComparable operator left right = .ok ()) ∧
    ∀ left' right' : Expr, (left'.type == left.type) = true → (right'.type == right.type) = true →
      (checkComparable operator left' right' = .ok () ↔
        checkComparable operator left right = .ok ()) := by
  refine ⟨checkComparable_eq_ok_iff, fun other => ?_, ?_, fun left' right' hl hr => ?_⟩
  · rw [checkComparable_eq_ok_iff, checkComparable_eq_ok_iff]
  · rw [checkComparable_eq_ok_iff, checkComparable_eq_ok_iff]
    exact ⟨fun ⟨hr, hl, h⟩ => ⟨hl, hr, h.symm⟩, fun ⟨hl, hr, h⟩ => ⟨hr, hl, h.symm⟩⟩
  · rw [checkComparable_eq_ok_iff, checkComparable_eq_ok_iff,
      (JavaType.alike_of_beq hl).isVoid_eq, (JavaType.alike_of_beq hr).isVoid_eq]
    have hforth := JavaType.Comparable.replace hl hr
    have hback := JavaType.Comparable.replace (BEq.symm hl) (BEq.symm hr)
    exact ⟨fun ⟨hl, hr, h⟩ => ⟨hl, hr, hback h⟩, fun ⟨hl, hr, h⟩ => ⟨hl, hr, hforth h⟩⟩

/-- A new object can be compared with a message, so what is cast to the class of everything can be
compared with the same message, of which another supertype is known. -/
theorem checkComparable_iff_comparable_message :
    let name : ClassName := ⟨[{ text := "com" }], [], { text := "Message" }⟩
    let known : JavaType := .ofReference (.compiled name [] ["com.Base"] false)
    let generated : JavaType := .ofReference (.generated name [] none false)
    let fresh : Expr := .create (.wellKnown .object) [] false
    let castTo (type : JavaType) : Expr := .cast type (.value .null)
    (JavaType.object == fresh.type) = true ∧ (generated == known) = true ∧
      checkComparable .equal fresh (castTo known) = .ok () ∧
      checkComparable .equal (castTo .object) (castTo generated) = .ok () := by
  intro name known generated fresh castTo
  have hobject : (JavaType.object == fresh.type) = true := BEq.rfl
  have hclass : (generated == known) = true := by decide
  obtain ⟨hiff, -, -, hreplace⟩ := checkComparable_iff_comparable .equal fresh (castTo known)
  have hfresh : checkComparable .equal fresh (castTo known) = .ok () :=
    hiff.2 ⟨rfl, rfl, .object rfl rfl (.inl ⟨by decide, rfl⟩)⟩
  exact ⟨hobject, hclass, hfresh,
    (hreplace (castTo .object) (castTo generated) hobject hclass).2 hfresh⟩

end Expr

end JavaSyntax
