import JavaSyntax.JavaType.Primitive
import JavaSyntax.Reference.WellKnown

/-!
# Types

The type of an expression or declaration: nothing, a single value, or an array. What a single
value or an element is, is a primitive or a class; so an array of arrays cannot be expressed.
Types are equal when they are built alike from equal references.
-/

set_option autoImplicit false

namespace JavaSyntax

/-- The type of one value, or of one element of an array. -/
inductive ElementType where
  | primitive (p : Primitive)
  | reference (r : Reference)
  deriving BEq

/-- A type as it is written in a declaration or carried by an expression. -/
inductive JavaType where
  /-- The type of what has no value. -/
  | void
  /-- The type of one value. -/
  | single (element : ElementType)
  /-- The type of an array. -/
  | array (element : ElementType)
  deriving BEq

/-- The sort of a type, without its class or whether it is an array. -/
inductive Kind where
  | void
  | primitive (p : Primitive)
  | object
  deriving DecidableEq, Repr

/-- The word for a kind. -/
def Kind.keyword : Kind → String
  | void => "void"
  | primitive p => p.keyword
  | object => "Object"

/-! ## Properties of classes -/

namespace Reference

/-- Whether this is the class with the given full name, without type arguments. -/
def isExactly (r : Reference) (fullName : String) : Bool :=
  r.arguments.isEmpty && r.fullName == fullName

/-- Whether this stands for the type of `null`. -/
def isNull (r : Reference) : Bool := r.isExactly Ancestry.nullClass

/-- Whether this is the class of everything. -/
def isObject (r : Reference) : Bool := r.isExactly Ancestry.objectClass

/-- Whether this is the class of character strings. -/
def isString (r : Reference) : Bool := r.isExactly Ancestry.stringClass

/-- The primitive type that the class boxes, whatever its type arguments. -/
def unboxed? (r : Reference) : Option Primitive :=
  if r.packageName == "java.lang" && r.enclosing.isEmpty then Primitive.ofBoxedName? r.name
  else none

/-- Whether objects of the class can be thrown where exceptions are declared. -/
def isException (r : Reference) : Bool := r.isSubtypeOf Ancestry.exceptionClass

end Reference

/-! ## Types and their predicates -/

namespace JavaType

/-- The type of the values of a primitive type. -/
def ofPrimitive (p : Primitive) : JavaType := single (.primitive p)

/-- The type of the objects of a class. -/
def ofReference (r : Reference) : JavaType := single (.reference r)

/-- The type of the objects of a well-known class. -/
def ofClass (c : ClassName) : JavaType := ofReference (Reference.wellKnown c)

/-- The class that boxes a primitive type. -/
def boxed (p : Primitive) : JavaType := ofClass (ClassName.boxed p)

/-- The type of truth values. -/
def boolean : JavaType := ofPrimitive .boolean

/-- The type of character strings. -/
def string : JavaType := ofClass ClassName.string

/-- The type of every object. -/
def object : JavaType := ofClass ClassName.object

/-- The type of `null`. -/
def null : JavaType := ofClass ClassName.nullType

/-- What there is one or many of. -/
def element? : JavaType → Option ElementType
  | void => none
  | single e | array e => some e

/-- The class behind the type or its elements. -/
def reference? (t : JavaType) : Option Reference :=
  match t.element? with
  | some (.reference r) => some r
  | _ => none

/-- The class behind the type, unless it is an array. -/
def singleReference? : JavaType → Option Reference
  | single (.reference r) => some r
  | _ => none

/-- The class behind the type, unless it is an array or the type of `null`. -/
def class? (t : JavaType) : Option Reference := t.singleReference?.filter (!·.isNull)

/-- The sort of the type or its elements. -/
def kind (t : JavaType) : Kind :=
  match t.element? with
  | none => .void
  | some (.primitive p) => .primitive p
  | some (.reference _) => .object

/-- Whether there is no value. -/
def isVoid : JavaType → Bool
  | void => true
  | _ => false

/-- Whether this is an array type. -/
def isArray : JavaType → Bool
  | array _ => true
  | _ => false

/-- The type of one element of an array. -/
def elementType? : JavaType → Option JavaType
  | array e => some (single e)
  | _ => none

/-- Whether the values are primitive. -/
def isPrimitive : JavaType → Bool
  | single (.primitive _) => true
  | _ => false

/-- Whether the values are objects; arrays are. -/
def isReference : JavaType → Bool
  | single (.reference _) | array _ => true
  | _ => false

/-- Whether this is a single class with the given property. -/
def isClassThat (t : JavaType) (property : Reference → Bool) : Bool :=
  t.singleReference?.any property

/-- Whether this is the type of `null`. -/
def isNull (t : JavaType) : Bool := t.isClassThat Reference.isNull

/-- Whether this is the type of every object. -/
def isObject (t : JavaType) : Bool := t.isClassThat Reference.isObject

/-- Whether this is the type of character strings. -/
def isString (t : JavaType) : Bool := t.isClassThat Reference.isString

/-- Whether values can be thrown where exceptions are declared. -/
def isException (t : JavaType) : Bool := t.isClassThat Reference.isException

/-- The primitive type of the values, seen through boxing. -/
def unboxed? : JavaType → Option Primitive
  | single (.primitive p) => some p
  | single (.reference r) => r.unboxed?
  | _ => none

/-- Whether this is a class that boxes a primitive type. -/
def isBoxed (t : JavaType) : Bool := t.isClassThat (·.unboxed?.isSome)

/-- Whether the values are numbers, boxed or not. -/
def isNumeric (t : JavaType) : Bool := t.unboxed?.any Primitive.isNumeric

/-- Whether the values are truth values, boxed or not. -/
def isBoolean (t : JavaType) : Bool := t.unboxed? == some .boolean

/-- The type as a diagnostic shows it. -/
def display : JavaType → String
  | void => "void"
  | single (.primitive p) => p.keyword
  | single (.reference r) => if r.isNull then "null" else r.display
  | array (.primitive p) => p.keyword ++ "[]"
  | array (.reference r) => r.display ++ "[]"

theorem class?_eq_some_iff {t : JavaType} {r : Reference} :
    t.class? = some r ↔ t = ofReference r ∧ r.isNull = false := by
  rcases t with _ | (_ | s) | _ <;>
    simp only [class?, singleReference?, ofReference, Option.filter_none, Option.filter_some,
      single.injEq, ElementType.reference.injEq, reduceCtorEq, false_and]
  constructor
  · intro h
    split at h
    · cases h; simp_all
    · simp at h
  · rintro ⟨rfl, h⟩
    simp [h]

end JavaType

end JavaSyntax
