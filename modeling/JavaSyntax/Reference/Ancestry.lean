/-!
# Ancestry of well-known classes

The supertypes of the runtime classes that generated code leans on, by full name. A class that
the table does not hold is taken to inherit from `java.lang.Object` alone.
-/

set_option autoImplicit false

namespace JavaSyntax.Ancestry

/-- The class that every other class inherits from. -/
def objectClass : String := "java.lang.Object"

/-- The class of everything that a `catch` clause may name. -/
def exceptionClass : String := "java.lang.Exception"

/-- The class that stands for the type of `null`. -/
def nullClass : String := "javax.lang.model.type.NullType"

/-- The class of character strings. -/
def stringClass : String := "java.lang.String"

/-- Nothing but the top class. -/
def plain : List String := [objectClass]

/-- The supertypes of a boxed number. -/
def number : List String := ["java.lang.Number", "java.lang.Comparable", objectClass]

/-- The supertypes of a value with an order. -/
def comparable : List String := ["java.lang.Comparable", objectClass]

/-- The supertypes of an annotation type. -/
def annotation : List String := ["java.lang.annotation.Annotation", objectClass]

/-- The supertypes of `java.lang.Exception`. -/
def throwable : List String := ["java.lang.Throwable", objectClass]

/-- The supertypes of a checked exception. -/
def checkedException : List String := exceptionClass :: throwable

/-- The supertypes of an unchecked exception. -/
def uncheckedException : List String := "java.lang.RuntimeException" :: checkedException

/-- The supertypes of a list. -/
def iterable : List String := ["java.lang.Iterable", objectClass]

/-- The supertypes of each well-known class, the nearest first. -/
def wellKnown : List (String × List String) :=
  [(objectClass, []),
    (nullClass, []),
    (stringClass, "java.lang.CharSequence" :: comparable),
    ("java.lang.Byte", number),
    ("java.lang.Short", number),
    ("java.lang.Integer", number),
    ("java.lang.Long", number),
    ("java.lang.Float", number),
    ("java.lang.Double", number),
    ("java.lang.Character", comparable),
    ("java.lang.Boolean", comparable),
    ("java.lang.Throwable", plain),
    (exceptionClass, throwable),
    ("java.lang.RuntimeException", checkedException),
    ("java.lang.IllegalArgumentException", uncheckedException),
    ("java.lang.IllegalStateException", uncheckedException),
    ("java.lang.UnsupportedOperationException", uncheckedException),
    ("java.lang.NullPointerException", uncheckedException),
    ("java.lang.InterruptedException", checkedException),
    ("java.io.IOException", checkedException),
    ("java.util.concurrent.ExecutionException", checkedException),
    ("java.util.concurrent.TimeoutException", checkedException),
    ("java.lang.AutoCloseable", plain),
    ("java.lang.Iterable", plain),
    ("java.util.Collection", iterable),
    ("java.util.List", "java.util.Collection" :: iterable),
    ("java.util.ArrayList",
      "java.util.AbstractList" :: "java.util.List" :: "java.util.Collection" :: iterable),
    ("java.util.Map", plain),
    ("java.util.HashMap", ["java.util.AbstractMap", "java.util.Map", objectClass]),
    ("java.util.Arrays", plain),
    ("java.util.Collections", plain),
    ("java.util.Objects", plain),
    ("java.lang.Override", annotation),
    ("java.lang.Deprecated", annotation),
    ("javax.annotation.Generated", annotation),
    ("com.google.protobuf.ByteString", plain)]

/-- The supertypes of a class, the nearest first. -/
def ofClass (fullName : String) : List String := (wellKnown.lookup fullName).getD plain

/-- A list with the elements that it lacks put behind it, each once. -/
def merge (known added : List String) : List String :=
  added.foldl (fun seen name => if name ∈ seen then seen else seen ++ [name]) known

/-- The supertypes of a class that declares these: each declared one, followed by its own
supertypes, without repetitions. -/
def ofDeclared (declared : List String) : List String :=
  declared.foldl (fun known supertype => merge known (supertype :: ofClass supertype)) []

theorem mem_merge {known added : List String} {name : String} :
    name ∈ merge known added ↔ name ∈ known ∨ name ∈ added := by
  unfold merge
  induction added generalizing known with
  | nil => simp
  | cons first added ih =>
    rw [List.foldl_cons, ih]
    by_cases h : first ∈ known
    · simp only [h, ↓reduceIte, List.mem_cons]
      constructor
      · rintro (hk | ha)
        · exact .inl hk
        · exact .inr (.inr ha)
      · rintro (hk | rfl | ha)
        · exact .inl hk
        · exact .inl h
        · exact .inr ha
    · simp [h, or_assoc]

theorem nodup_merge {known added : List String} (h : known.Nodup) : (merge known added).Nodup := by
  unfold merge
  induction added generalizing known with
  | nil => simpa
  | cons first added ih =>
    rw [List.foldl_cons]
    apply ih
    by_cases hm : first ∈ known
    · simpa [hm] using h
    · rw [if_neg hm, List.nodup_append]
      exact ⟨h, by simp, by rintro a ha b hb rfl; simp_all⟩

end JavaSyntax.Ancestry
