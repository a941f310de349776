import JavaSyntax.ClassDefinition.Basic
import JavaSyntax.ClassDefinition.Members

/-!
# Drafts of classes

What is put together before a class is made, and the rules that the parts must meet, in the
order in which they are looked at.
-/

set_option autoImplicit false

namespace JavaSyntax

/-- The parts of a class. -/
structure ClassDraft where
  comments : List Comment := []
  annotations : List Annotation := []
  package : Option String := none
  modifiers : Modifiers := {}
  isNested : Bool := false
  name : Option String := none
  superclass : Option JavaType := none
  interfaces : List JavaType := []
  statements : List (Option Statement) := []
  methods : List (Option Method) := []
  nested : List (Option ClassDefinition) := []

namespace ClassDraft

/-- The kind of node in messages. -/
def node : String := "class definition"

/-- A class stands in a package exactly if it is not nested. -/
def buildPlacement (draft : ClassDraft) (name : String) : Checked Placement :=
  match draft.isNested, draft.package with
  | true, some _ => reject node "package" (.packagedNested name)
  | true, none => .ok .nested
  | false, none => reject node "package" (.unpackagedTopLevel name)
  | false, some package =>
    match Identifier.ofDotted? package with
    | some parts => .ok (.topLevel parts)
    | none => reject node "package" (.notPackageName package)

/-- A class in a package is visible there and is not static. -/
def checkTopLevel (draft : ClassDraft) (name : String) : Checked Unit := do
  require (!draft.modifiers.isStatic) node "modifiers" (.staticTopLevel name)
  require (draft.modifiers.access == .everyone || draft.modifiers.access == .package) node "scope"
    (.hiddenTopLevel name)

/-- The rules for modifiers. -/
def checkModifiers (draft : ClassDraft) (name : String) : Checked Unit := do
  if !draft.isNested then draft.checkTopLevel name
  require (!(draft.modifiers.isAbstract && draft.modifiers.isFinal)) node "modifiers"
    (.abstractFinal name)

/-- A superclass is a class that does not box a primitive type. -/
def buildSuperclass : Option JavaType → Checked (Option Reference)
  | none => .ok none
  | some type =>
    match type.class?.filter (·.unboxed?.isNone) with
    | some r => .ok (some r)
    | none => reject node "extends" (.notExtensible type.display)

/-- Refuses the first constructor of another class. -/
def checkConstructors (name : String) (methods : List Method) : Checked Unit :=
  match methods.find? fun m => m.header.isConstructor && m.name != name with
  | some m => reject node "methods" (.foreignConstructor m.name name)
  | none => .ok ()

/-- Every nested class is marked as one, and none has a name that is declared before it. -/
def checkNested (declared : List String) : List ClassDefinition → Checked Unit
  | [] => .ok ()
  | c :: rest => do
    require c.isNested node "nested classes" (.notNested c.name)
    if c.name ∈ declared then .error ⟨node, .redeclared c.name⟩
    else checkNested (c.name :: declared) rest

/-- The class that the draft describes. -/
def build (draft : ClassDraft) : Checked ClassDefinition := do
  let name ← given node "name" draft.name
  let identifier ← Identifier.ofString name
  let placement ← draft.buildPlacement name
  draft.checkModifiers name
  let superclass ← buildSuperclass draft.superclass
  let interfaces ← draft.interfaces.mapM (checkClass node "implements" .notImplementable)
  let statements ← withoutGaps node "statements" draft.statements
  let methods ← withoutGaps node "methods" draft.methods
  let nested ← withoutGaps node "nested classes" draft.nested
  Members.check node draft.modifiers.isAbstract statements methods
  checkConstructors name methods
  checkNested [name] nested
  return {
    header :=
      { comments := draft.comments
        annotations := draft.annotations
        placement := placement
        modifiers := draft.modifiers
        identifier := identifier
        superclass := superclass
        interfaces := interfaces }
    statements := statements
    methods := methods
    nested := nested }

end ClassDraft

/-- The draft that a class is built from. -/
def ClassDefinition.toDraft (c : ClassDefinition) : ClassDraft :=
  { comments := c.header.comments
    annotations := c.header.annotations
    package := if c.isNested then none else some c.packageName
    modifiers := c.header.modifiers
    isNested := c.isNested
    name := some c.name
    superclass := c.header.superclass.map .ofReference
    interfaces := c.header.interfaces.map .ofReference
    statements := c.statements.map some
    methods := c.methods.map some
    nested := c.nested.map some }

end JavaSyntax
