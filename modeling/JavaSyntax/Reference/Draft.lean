import JavaSyntax.Reference.Basic

/-!
# Drafts of references

What is put together before a reference to a class is made, and the rules that the parts must
meet.
-/

set_option autoImplicit false

namespace JavaSyntax

/-! ## Classes that exist already -/

/-- The parts of a reference to a class that exists already. -/
structure CompiledDraft where
  className : Option String := none
  arguments : List Reference := []
  /-- The declared supertypes, for a class that is not well known. -/
  supertypes : Option (List String) := none
  isStaticImport : Bool := false

namespace CompiledDraft

/-- The kind of node in messages. -/
def node : String := "concrete reference"

/-- The reference that the draft describes. -/
def build (draft : CompiledDraft) : Checked Reference := do
  let text ← given node "class name" draft.className
  match ClassName.ofString? text with
  | none => reject node "class name" (.notQualifiedName text)
  | some className =>
    let supertypes := draft.supertypes.elim (Ancestry.ofClass text) Ancestry.ofDeclared
    return .compiled className draft.arguments supertypes draft.isStaticImport

theorem build_eq_ok_iff {draft : CompiledDraft} {r : Reference} :
    draft.build = .ok r ↔ ∃ text c, draft.className = some text ∧
      ClassName.ofString? text = some c ∧
      .compiled c draft.arguments
        (draft.supertypes.elim (Ancestry.ofClass text) Ancestry.ofDeclared) draft.isStaticImport
        = r := by
  simp only [build, bind_eq_ok_iff, given_eq_ok_iff, exists_and_left]
  refine exists_congr fun text => and_congr Iff.rfl ?_
  cases ClassName.ofString? text <;> simp [reject, pure_eq_ok_iff]

end CompiledDraft

/-- The class with this full name. -/
def Reference.ofClass (fullName : String) : Checked Reference :=
  { className := some fullName : CompiledDraft }.build

/-! ## Classes that are being generated -/

/-- The parts of a reference to a class that is being generated. -/
structure GeneratedDraft where
  package : Option String := none
  name : Option String := none
  enclosing : List String := []
  arguments : List Reference := []
  parent : Option Reference := none
  isStaticImport : Bool := false

namespace GeneratedDraft

/-- The kind of node in messages. -/
def node : String := "vapor reference"

/-- A simple class name. -/
def simpleName (field text : String) : Checked Identifier :=
  match Identifier.ofString? text with
  | some identifier => .ok identifier
  | none => reject node field (.notClassName text)

/-- The reference that the draft describes. -/
def build (draft : GeneratedDraft) : Checked Reference := do
  let name ← given node "name" draft.name
  let package ← given node "package" draft.package
  let name ← simpleName "name" name
  match Identifier.ofDotted? package with
  | none => reject node "package" (.notPackage package)
  | some package =>
    let enclosing ← draft.enclosing.mapM (simpleName "enclosing class names")
    return .generated ⟨package, enclosing, name⟩ draft.arguments draft.parent draft.isStaticImport

end GeneratedDraft

/-- The draft that a reference to a generated class is built from. -/
def Reference.toDraft? : Reference → Option GeneratedDraft
  | .generated c arguments parent isStaticImport =>
    some
      { package := some c.packageName
        name := some c.name.text
        enclosing := c.enclosing.map (·.text)
        arguments := arguments
        parent := parent
        isStaticImport := isStaticImport }
  | _ => none

end JavaSyntax
