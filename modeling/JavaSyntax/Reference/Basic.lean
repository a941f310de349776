import JavaSyntax.Reference.ClassName
import JavaSyntax.Reference.Ancestry

/-!
# References

A reference names a class together with type arguments. The class is one that exists already, one
that is being generated, or, in the place of a type argument, unknown. Two references are equal
when they name the same class with equal arguments: what is known of the supertypes, and how the
class is imported, does not take part.
-/

set_option autoImplicit false

namespace JavaSyntax

/-- A reference to a class. -/
inductive Reference where
  /-- The unknown class, only meaningful as a type argument. -/
  | wildcard (arguments : List Reference)
  /-- A class that exists already, with the full names of all its supertypes. -/
  | compiled (className : ClassName) (arguments : List Reference) (supertypes : List String)
      (isStaticImport : Bool)
  /-- A class that is being generated, which knows its supertypes through its parent. -/
  | generated (className : ClassName) (arguments : List Reference) (parent : Option Reference)
      (isStaticImport : Bool)

namespace Reference

/-! ## Names -/

/-- The class that is named, if it is known. -/
def className? : Reference → Option ClassName
  | wildcard _ => none
  | compiled c _ _ _ | generated c _ _ _ => some c

/-- The type arguments. -/
def arguments : Reference → List Reference
  | wildcard as | compiled _ as _ _ | generated _ as _ _ => as

/-- Whether the class is imported by its own name, for use without its package or classes. -/
def isStaticImport : Reference → Bool
  | wildcard _ => false
  | compiled _ _ _ isStatic | generated _ _ _ isStatic => isStatic

/-- Whether the class is unknown. -/
def isWildcard (r : Reference) : Bool := r.className?.isNone

theorem exists_className {r : Reference} (h : r.isWildcard = false) :
    ∃ c, r.className? = some c := by
  rw [isWildcard] at h
  exact Option.isSome_iff_exists.1 (by simpa using h)

/-- The name of the unknown class. -/
def wildcardName : String := "?"

/-- The name of the class alone. -/
def name (r : Reference) : String := r.className?.elim wildcardName (·.name.text)

/-- The package of the class, empty for the package without a name. -/
def packageName (r : Reference) : String := r.className?.elim "" (·.packageName)

/-- The names of the classes around the class, the outermost first. -/
def enclosing (r : Reference) : List Identifier := r.className?.elim [] (·.enclosing)

/-- The name inside the package, such as `Map.Entry`. -/
def simpleName (r : Reference) : String := r.className?.elim wildcardName (·.simpleName)

/-- The name of the outermost class. -/
def topLevelName (r : Reference) : String := r.className?.elim wildcardName (·.topLevel.text)

/-- The whole name, such as `java.util.Map.Entry`. -/
def fullName (r : Reference) : String := r.className?.elim wildcardName (·.fullName)

/-- The same class with other type arguments. -/
def withArguments (r : Reference) (arguments : List Reference) : Reference :=
  match r with
  | wildcard _ => wildcard arguments
  | compiled c _ supertypes isStatic => compiled c arguments supertypes isStatic
  | generated c _ parent isStatic => generated c arguments parent isStatic

/-- A well-known class, without type arguments. -/
def wellKnown (className : ClassName) : Reference :=
  compiled className [] (Ancestry.ofClass className.fullName) false

/-! ## Display -/

mutual
/-- The simple name with the type arguments between angle brackets. -/
def display : Reference → String
  | wildcard as => wildcardName ++ displayArguments as
  | compiled c as _ _ => c.simpleName ++ displayArguments as
  | generated c as _ _ => c.simpleName ++ displayArguments as

/-- The type arguments between angle brackets, or nothing. -/
def displayArguments : List Reference → String
  | [] => ""
  | a :: as => "<" ++ display a ++ displayFurther as ++ ">"

/-- The type arguments after the first, each behind a comma. -/
def displayFurther : List Reference → String
  | [] => ""
  | a :: as => ", " ++ display a ++ displayFurther as
end

/-! ## Equality -/

mutual
/-- Whether two references name the same class with the same arguments. -/
def sameClass : Reference → Reference → Bool
  | wildcard as, s => s.className? == none && sameClasses as s.arguments
  | compiled c as _ _, s => s.className? == some c && sameClasses as s.arguments
  | generated c as _ _, s => s.className? == some c && sameClasses as s.arguments

/-- Whether two lists of type arguments agree at every position. -/
def sameClasses : List Reference → List Reference → Bool
  | [], [] => true
  | r :: rs, s :: ss => sameClass r s && sameClasses rs ss
  | _, _ => false
end

instance : BEq Reference := ⟨sameClass⟩

theorem sameClasses_eq_beq (rs ss : List Reference) : sameClasses rs ss = (rs == ss) := by
  induction rs generalizing ss with
  | nil => cases ss <;> rfl
  | cons r rs ih =>
    cases ss with
    | nil => rfl
    | cons s ss => simp only [sameClasses, ih]; rfl

/-- Equality reads the class and the arguments, and nothing else. -/
theorem beq_iff {r s : Reference} :
    (r == s) = true ↔ r.className? = s.className? ∧ (r.arguments == s.arguments) = true := by
  have h : (r == s) = (s.className? == r.className? && sameClasses r.arguments s.arguments) := by
    change sameClass r s = _
    cases r <;> simp [sameClass, className?, arguments]
  rw [h, sameClasses_eq_beq, Bool.and_eq_true, beq_iff_eq, eq_comm]

/-! ## Supertypes -/

/-- The full names of all supertypes, the nearest first. -/
def ancestors : Reference → List String
  | wildcard _ => []
  | compiled _ _ supertypes _ => supertypes
  | generated _ _ none _ => Ancestry.plain
  | generated _ _ (some parent) _ => parent.fullName :: parent.ancestors

/-- Whether this is the class with the given full name or inherits from it. -/
def isSubtypeOf (r : Reference) (fullName : String) : Bool :=
  r.fullName == fullName || r.ancestors.contains fullName

end Reference

end JavaSyntax
