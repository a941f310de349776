import JavaSyntax.Reference.Basic

/-!
# Import tables

Which class each simple name means in a file. The first class to use a simple name claims it and
is imported; a later class with the same simple name is written by its full name. A claim is
never given up, so the name by which a class is written stays the same once the class has been
entered.
-/

set_option autoImplicit false

namespace JavaSyntax

/-- What a table tells apart of the references that it has met. -/
structure ImportKey where
  className : ClassName
  /-- The number of type arguments. -/
  arity : Nat
  deriving DecidableEq

/-- A simple name and the full name that it stands for. -/
structure Binding where
  name : String
  meaning : String
  deriving DecidableEq, Repr

/-- The imports of a file, collected while the file is written. -/
structure ImportTable where
  /-- The package of the file, empty for the package without a name. -/
  package : String
  /-- The references that have been met, without repetitions, in the order of their first use. -/
  references : List Reference := []
  /-- The simple names that have a meaning in the file, the latest first. -/
  claims : List Binding := []
  /-- The import lines, in ascending order. -/
  imports : List String := []

namespace Reference

/-- What a table tells apart of a reference; nothing of the unknown class. -/
def importKey? (r : Reference) : Option ImportKey :=
  r.className?.map fun c => { className := c, arity := r.arguments.length }

/-- The simple name that a reference needs, with the meaning that it needs it in: its own name if
the class is imported statically, the name of the outermost class otherwise. -/
def binding (r : Reference) : Binding :=
  if r.isStaticImport then { name := r.name, meaning := r.fullName }
  else { name := r.topLevelName, meaning := qualify r.packageName r.topLevelName }

/-- How a reference is written where its simple name has the meaning that it needs. -/
def shortName (r : Reference) : String := if r.isStaticImport then r.name else r.simpleName

end Reference

namespace ImportTable

/-- The table of an empty file in a package. -/
def empty (package : String) : ImportTable := { package := package }

/-- What a simple name means in the file so far. -/
def meaning? (t : ImportTable) (name : String) : Option String :=
  (t.claims.find? (·.name == name)).map (·.meaning)

/-- Gives a simple name a meaning unless it has one. -/
def claim (t : ImportTable) (b : Binding) : ImportTable :=
  if (t.meaning? b.name).isSome then t else { t with claims := b :: t.claims }

/-- Claims the simple name of a class that the file itself declares. -/
def reserve (t : ImportTable) (package name : String) : ImportTable :=
  t.claim { name := name, meaning := qualify package name }

/-- An ascending list without repetitions, with one more element. -/
def insertSorted (line : String) : List String → List String
  | [] => [line]
  | first :: rest =>
    if line < first then line :: first :: rest
    else if line = first then first :: rest
    else first :: insertSorted line rest

/-- The line that imports the class of a reference, if one is needed: the classes of `java.lang`,
of the package of the file and of the package without a name are known without it. -/
def importLine? (t : ImportTable) (r : Reference) : Option String :=
  if r.isStaticImport then some ("import static " ++ r.binding.meaning ++ ";")
  else if r.packageName == "" || r.packageName == "java.lang" || r.packageName == t.package then none
  else some ("import " ++ r.binding.meaning ++ ";")

/-- Notes that a reference has been met. -/
def record (t : ImportTable) (r : Reference) : ImportTable :=
  if r.importKey? ∈ t.references.map (·.importKey?) then t
  else { t with references := t.references ++ [r] }

/-- Enters a reference: its simple name is claimed and imported if it is still free. The unknown
class is not entered. -/
def enter (t : ImportTable) (r : Reference) : ImportTable :=
  if r.isWildcard then t
  else if (t.meaning? r.binding.name).isSome then t.record r
  else
    { (t.record r).claim r.binding with
      imports := (t.importLine? r).elim t.imports (insertSorted · t.imports) }

/-- Enters references in order. -/
def enterAll (t : ImportTable) (rs : List Reference) : ImportTable := rs.foldl enter t

/-- How a reference is written, without its type arguments: short if its simple name means what
it needs, in full otherwise. -/
def nameOf (t : ImportTable) (r : Reference) : String :=
  if t.meaning? r.binding.name = some r.binding.meaning then r.shortName else r.fullName

/-- Enters a reference and tells how it is written from then on. -/
def register (t : ImportTable) (r : Reference) : String × ImportTable :=
  ((t.enter r).nameOf r, t.enter r)

/-! ## Claims are kept -/

theorem meaning?_claim (t : ImportTable) (b : Binding) (name : String) :
    (t.claim b).meaning? name = (t.meaning? name).or (if b.name = name then some b.meaning else none) := by
  unfold claim
  split
  · next h =>
    by_cases hn : b.name = name
    · subst hn
      obtain ⟨m, hm⟩ := Option.isSome_iff_exists.1 h
      simp [hm]
    · simp [hn]
  · next h =>
    have hnone : t.meaning? b.name = none := by simpa using h
    by_cases hn : b.name = name
    · subst hn
      rw [hnone]
      simp [meaning?]
    · simp [meaning?, hn]

/-- A simple name that has a meaning keeps it. -/
theorem meaning?_claim_of_some {t : ImportTable} {b : Binding} {name meaning : String}
    (h : t.meaning? name = some meaning) : (t.claim b).meaning? name = some meaning := by
  rw [meaning?_claim, h]
  rfl

/-- Noting a reference claims nothing. -/
theorem meaning?_record (t : ImportTable) (r : Reference) (name : String) :
    (t.record r).meaning? name = t.meaning? name := by
  unfold record
  split <;> rfl

/-- Entering a reference gives its simple name a meaning unless it has one, and no other name. -/
theorem meaning?_enter (t : ImportTable) (r : Reference) (name : String) :
    (t.enter r).meaning? name =
      if r.isWildcard then t.meaning? name
      else (t.meaning? name).or
        (if r.binding.name = name then some r.binding.meaning else none) := by
  unfold enter
  split
  · rfl
  · split
    · next h =>
      rw [meaning?_record]
      by_cases hn : r.binding.name = name
      · subst hn
        obtain ⟨m, hm⟩ := Option.isSome_iff_exists.1 h
        simp [hm]
      · simp [hn]
    · change ((t.record r).claim r.binding).meaning? name = _
      rw [meaning?_claim, meaning?_record]

/-- A meaning outlives every reference that is entered later. -/
theorem meaning?_enter_of_some {t : ImportTable} {r : Reference} {name meaning : String}
    (h : t.meaning? name = some meaning) : (t.enter r).meaning? name = some meaning := by
  rw [meaning?_enter, h]
  split <;> rfl

/-- Once the simple name of a class has a meaning, entering other references does not change how
the class is written. This is why names may be settled after everything has been entered. -/
theorem nameOf_enter {t : ImportTable} {s : Reference}
    (h : (t.meaning? s.binding.name).isSome) (r : Reference) :
    (t.enter r).nameOf s = t.nameOf s := by
  obtain ⟨m, hm⟩ := Option.isSome_iff_exists.1 h
  rw [nameOf, nameOf, meaning?_enter_of_some hm, hm]

end ImportTable

end JavaSyntax
