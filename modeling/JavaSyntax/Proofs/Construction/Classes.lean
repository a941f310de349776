import JavaSyntax.ClassDefinition.Draft
import JavaSyntax.Proofs.Construction.Expressions
import JavaSyntax.Proofs.Construction.Members
import JavaSyntax.Proofs.References.ClassNames

/-!
# Which classes can be constructed

A draft of a class is accepted exactly if it is well formed. `ClassDraft.WellFormed` says what this
means without the order in which the rules are looked at and without the rejections, and what is
built has the draft as its own.
-/

set_option autoImplicit false

namespace JavaSyntax

/-! ## Parts of a class -/

/-- A type that a class can extend. -/
structure JavaType.IsExtensible (t : JavaType) : Prop where
  isClass : t.IsClass
  isBoxed : t.isBoxed = false

/-- The package that is named, if the class stands in one. -/
def Placement.package? : Placement → Option String
  | topLevel package => some (dotted package)
  | nested => none

namespace ClassDraft

theorem buildPlacement_eq_ok_iff {draft : ClassDraft} {name : String} {p : Placement} :
    draft.buildPlacement name = .ok p ↔
      p.isNested = draft.isNested ∧ p.package? = draft.package ∧ p ≠ .topLevel [] := by
  constructor
  · intro h
    unfold buildPlacement at h
    split at h
    · cases h
    · next hnested hpackage =>
      cases h
      exact ⟨hnested.symm, hpackage.symm, by simp⟩
    · cases h
    · next package hnested hpackage =>
      split at h
      · next parts hparts =>
        cases h
        obtain ⟨hne, rfl⟩ := Identifier.ofDotted?_eq_some_iff_dotted.1 hparts
        exact ⟨hnested.symm, hpackage.symm, by simpa using hne⟩
      · cases h
  · rintro ⟨hnested, hpackage, hne⟩
    unfold buildPlacement
    rw [← hnested, ← hpackage]
    cases p with
    | nested => rfl
    | topLevel parts =>
      have hparts := Identifier.ofDotted?_eq_some_iff_dotted.2 ⟨by simpa using hne, rfl⟩
      simp [Placement.isNested, Placement.package?, hparts]

theorem checkModifiers_eq_ok_iff {draft : ClassDraft} {name : String} :
    draft.checkModifiers name = .ok () ↔
      (draft.isNested = false → draft.modifiers.isStatic = false ∧
        (draft.modifiers.access = .everyone ∨ draft.modifiers.access = .package)) ∧
      ¬ (draft.modifiers.isAbstract = true ∧ draft.modifiers.isFinal = true) := by
  unfold checkModifiers
  cases draft.isNested <;> cases draft.modifiers.isAbstract <;>
    simp [checkTopLevel, bind_eq_ok_iff, exists_unit_iff, require_eq_ok_iff, and_assoc]

theorem filter_class?_eq_some_iff {t : JavaType} {r : Reference} :
    t.class?.filter (·.unboxed?.isNone) = some r ↔ t = .ofReference r ∧ t.IsExtensible := by
  have hboxed : r.unboxed?.isNone = true ↔ (JavaType.ofReference r).isBoxed = false := by
    simp [JavaType.isBoxed, JavaType.isClassThat, JavaType.singleReference?, JavaType.ofReference]
  rw [Option.filter_eq_some_iff, hboxed, JavaType.class?_eq_some_iff_isClass]
  constructor
  · rintro ⟨⟨rfl, hclass⟩, hboxed⟩
    exact ⟨rfl, hclass, hboxed⟩
  · rintro ⟨rfl, hclass, hboxed⟩
    exact ⟨⟨rfl, hclass⟩, hboxed⟩

theorem buildSuperclass_eq_ok_iff {type : Option JavaType} {r : Option Reference} :
    buildSuperclass type = .ok r ↔
      type = r.map .ofReference ∧ ∀ t ∈ type, t.IsExtensible := by
  cases type with
  | none => cases r <;> simp [buildSuperclass]
  | some t =>
    constructor
    · intro h
      simp only [buildSuperclass] at h
      split at h
      · next s hs =>
        cases h
        obtain ⟨rfl, hextensible⟩ := filter_class?_eq_some_iff.1 hs
        exact ⟨rfl, by simpa using hextensible⟩
      · cases h
    · rintro ⟨hr, hextensible⟩
      obtain ⟨s, rfl, rfl⟩ := Option.map_eq_some_iff.1 hr.symm
      simp only [buildSuperclass, filter_class?_eq_some_iff.2 ⟨rfl, hextensible _ rfl⟩]

theorem checkConstructors_eq_ok_iff {name : String} {methods : List Method} :
    checkConstructors name methods = .ok () ↔
      ∀ m ∈ methods, m.header.isConstructor = true → name = m.name := by
  unfold checkConstructors
  cases h : methods.find? fun m => m.header.isConstructor && m.name != name with
  | none =>
    simp only [List.find?_eq_none, Bool.and_eq_true, bne_iff_ne, ne_eq, not_and, not_not] at h
    exact ⟨fun _ m hm hconstructor => (h m hm hconstructor).symm, fun _ => rfl⟩
  | some m =>
    have hm := List.find?_some h
    simp only [Bool.and_eq_true, bne_iff_ne, ne_eq] at hm
    simp only [reject, reduceCtorEq, false_iff]
    intro hall
    exact hm.2 (hall m (List.mem_of_find?_eq_some h) hm.1).symm

theorem checkNested_eq_ok_iff {declared : List String} {cs : List ClassDefinition} :
    checkNested declared cs = .ok () ↔
      (∀ c ∈ cs, c.isNested = true) ∧ Fresh declared (cs.map (·.name)) := by
  induction cs generalizing declared with
  | nil => simp [checkNested, fresh_nil]
  | cons c cs ih =>
    rw [List.map_cons, fresh_cons_iff, checkNested]
    by_cases hc : c.name ∈ declared <;>
      simp [hc, bind_eq_ok_iff, exists_unit_iff, require_eq_ok_iff, ih, and_assoc]

/-! ## Well-formed drafts -/

/-- The rules for a class that is not nested: it stands in a package and can be seen there. -/
structure TopLevel (draft : ClassDraft) : Prop where
  package : ∃ package, draft.package = some package ∧
    ∀ segment ∈ Text.segments '.' package, Identifier.isValid segment = true
  isStatic : draft.modifiers.isStatic = false
  access : draft.modifiers.access = .everyone ∨ draft.modifiers.access = .package

/-- The rules for a class. -/
structure WellFormed (draft : ClassDraft) : Prop where
  name : ∃ name, draft.name = some name ∧ Identifier.isValid name = true
  nested : draft.isNested = true → draft.package = none
  topLevel : draft.isNested = false → draft.TopLevel
  modifiers : ¬ (draft.modifiers.isAbstract = true ∧ draft.modifiers.isFinal = true)
  superclass : ∀ t ∈ draft.superclass, t.IsExtensible
  interfaces : ∀ t ∈ draft.interfaces, t.IsClass
  noGaps : none ∉ draft.statements ∧ none ∉ draft.methods ∧ none ∉ draft.nested
  members : Members.Lawful draft.modifiers.isAbstract (draft.statements.filterMap id)
    (draft.methods.filterMap id)
  /-- Every constructor is named after the class. -/
  constructors : ∀ m ∈ draft.methods.filterMap id,
    m.header.isConstructor = true → draft.name = some m.name
  /-- Every nested class is marked as one. -/
  marked : ∀ c ∈ draft.nested.filterMap id, c.isNested = true
  /-- No two nested classes have one name, and none has the name of the class. -/
  nestedNames : Fresh draft.name.toList ((draft.nested.filterMap id).map (·.name))

/-- Where a class stands is settled by a nested class naming no package and any other naming one. -/
theorem exists_placement_iff {draft : ClassDraft} :
    (∃ p : Placement, p.isNested = draft.isNested ∧ p.package? = draft.package ∧
        p ≠ .topLevel []) ↔
      (draft.isNested = true → draft.package = none) ∧
      (draft.isNested = false → ∃ package, draft.package = some package ∧
        ∀ segment ∈ Text.segments '.' package, Identifier.isValid segment = true) := by
  constructor
  · rintro ⟨p, hnested, hpackage, hne⟩
    rw [← hnested, ← hpackage]
    cases p with
    | nested => exact ⟨fun _ => rfl, fun h => Bool.noConfusion h⟩
    | topLevel parts =>
      have hparts := Identifier.ofDotted?_eq_some_iff_dotted.2 ⟨by simpa using hne, rfl⟩
      exact ⟨fun h => Bool.noConfusion h,
        fun _ => ⟨_, rfl, Identifier.exists_ofDotted?_eq_some_iff.1 ⟨parts, hparts⟩⟩⟩
  · rintro ⟨hnested, htopLevel⟩
    cases h : draft.isNested with
    | true => exact ⟨.nested, rfl, (hnested h).symm, by simp⟩
    | false =>
      obtain ⟨package, hpackage, hsegments⟩ := htopLevel h
      obtain ⟨parts, hparts⟩ := Identifier.exists_ofDotted?_eq_some_iff.2 hsegments
      obtain ⟨hne, rfl⟩ := Identifier.ofDotted?_eq_some_iff_dotted.1 hparts
      exact ⟨.topLevel parts, rfl, hpackage.symm, by simpa using hne⟩

theorem toDraft_package (c : ClassDefinition) :
    c.toDraft.package = c.header.placement.package? := by
  unfold ClassDefinition.toDraft ClassDefinition.isNested ClassDefinition.packageName
  cases c.header.placement <;> rfl

/-- A class that is made of what a draft names has this draft. -/
theorem toDraft_eq {draft : ClassDraft} {placement : Placement} {identifier : Identifier}
    {superclass : Option Reference} {interfaces : List Reference} {statements : List Statement}
    {methods : List Method} {nested : List ClassDefinition}
    (hnested : placement.isNested = draft.isNested) (hpackage : placement.package? = draft.package)
    (hname : draft.name = some identifier.text)
    (hsuperclass : draft.superclass = superclass.map .ofReference)
    (hinterfaces : draft.interfaces = interfaces.map .ofReference)
    (hstatements : draft.statements = statements.map some)
    (hmethods : draft.methods = methods.map some) (hclasses : draft.nested = nested.map some) :
    ClassDefinition.toDraft ⟨⟨draft.comments, draft.annotations, placement, draft.modifiers,
      identifier, superclass, interfaces⟩, statements, methods, nested⟩ = draft := by
  obtain ⟨comments, annotations, package, modifiers, isNested, name, type, types, _⟩ := draft
  dsimp only at *
  subst hnested hpackage hname hsuperclass hinterfaces hstatements hmethods hclasses
  rw [ClassDraft.mk.injEq]
  exact ⟨rfl, rfl, toDraft_package _, rfl, rfl, rfl, rfl, rfl, rfl, rfl, rfl⟩

/-- No class of a well-formed draft stands in a package without a name. -/
theorem WellFormed.placement_ne {c : ClassDefinition} (hwf : c.toDraft.WellFormed) :
    c.header.placement ≠ .topLevel [] := by
  intro hempty
  have hnested : c.toDraft.isNested = false := by
    simp [ClassDefinition.toDraft, ClassDefinition.isNested, hempty, Placement.isNested]
  obtain ⟨package, hpackage, hvalid⟩ := (hwf.topLevel hnested).package
  rw [toDraft_package, hempty] at hpackage
  cases hpackage
  -- The package without parts is spelled by the empty text, whose only segment is no identifier.
  exact absurd (hvalid "" (by decide)) (by decide)

/-- A class is built exactly from its own draft, if this is well formed. -/
theorem build_eq_ok_iff {draft : ClassDraft} {c : ClassDefinition} :
    draft.build = .ok c ↔ draft.WellFormed ∧ c.toDraft = draft := by
  simp only [build, bind_eq_ok_iff, exists_unit_iff, given_eq_ok_iff,
    Identifier.ofString_eq_ok_iff, buildPlacement_eq_ok_iff, checkModifiers_eq_ok_iff,
    buildSuperclass_eq_ok_iff,
    mapM_eq_ok_iff fun _ _ => checkClass_eq_ok_iff.trans JavaType.class?_eq_some_iff_isClass,
    withoutGaps_eq_ok_iff, Members.check_eq_ok_iff, checkConstructors_eq_ok_iff,
    checkNested_eq_ok_iff, pure_eq_ok_iff]
  constructor
  · rintro ⟨_, hname, identifier, rfl, placement, ⟨hnested, hpackage, hne⟩, ⟨htop, hmodifiers⟩,
      superclass, ⟨hsuperclass, hextensible⟩, interfaces, ⟨hinterfaces, hclasses⟩, statements,
      hstatements, methods, hmethods, nested, hdefinitions, hmembers, hconstructors,
      ⟨hmarked, hfresh⟩, rfl⟩
    obtain ⟨hunpackaged, hpackaged⟩ := exists_placement_iff.1 ⟨placement, hnested, hpackage, hne⟩
    constructor
    · constructor
      case name => exact ⟨_, hname, Identifier.isValid_iff.2 ⟨identifier, rfl⟩⟩
      case nested => exact hunpackaged
      case topLevel => exact fun h => ⟨hpackaged h, (htop h).1, (htop h).2⟩
      case modifiers => exact hmodifiers
      case superclass => exact hextensible
      case interfaces => simpa [hinterfaces] using hclasses
      case noGaps => simp [hstatements, hmethods, hdefinitions]
      case members => simpa [hstatements, hmethods] using hmembers
      case constructors => simpa [hname, hmethods] using hconstructors
      case marked => simpa [hdefinitions] using hmarked
      case nestedNames => simpa [hname, hdefinitions] using hfresh
    · exact toDraft_eq hnested hpackage hname hsuperclass hinterfaces hstatements hmethods
        hdefinitions
  · rintro ⟨hwf, rfl⟩
    exact ⟨c.name, rfl, c.header.identifier, rfl, c.header.placement,
      ⟨rfl, (toDraft_package c).symm, hwf.placement_ne⟩,
      ⟨fun h => ⟨(hwf.topLevel h).isStatic, (hwf.topLevel h).access⟩, hwf.modifiers⟩,
      c.header.superclass, ⟨rfl, hwf.superclass⟩,
      c.header.interfaces, ⟨rfl, by simpa [ClassDefinition.toDraft] using hwf.interfaces⟩,
      c.statements, rfl, c.methods, rfl, c.nested, rfl,
      by simpa [ClassDefinition.toDraft] using hwf.members,
      by simpa [ClassDefinition.toDraft] using hwf.constructors,
      ⟨by simpa [ClassDefinition.toDraft] using hwf.marked,
      by simpa [ClassDefinition.toDraft] using hwf.nestedNames⟩,
      by cases c; rfl⟩

/-- Every well-formed draft is the draft of a class. -/
theorem exists_toDraft_eq {draft : ClassDraft} (hwf : draft.WellFormed) :
    ∃ c : ClassDefinition, c.toDraft = draft := by
  have hsuperclass : ∃ r : Option Reference, draft.superclass = r.map .ofReference := by
    cases hsuper : draft.superclass with
    | none => exact ⟨none, rfl⟩
    | some t =>
      obtain ⟨r, rfl⟩ := (hwf.superclass t hsuper).isClass.exists_eq
      exact ⟨some r, rfl⟩
  have hinterfaces : ∃ rs : List Reference, draft.interfaces = rs.map .ofReference := by
    refine exists_eq_map_iff.2 fun t ht => ?_
    obtain ⟨r, rfl⟩ := (hwf.interfaces t ht).exists_eq
    exact ⟨r, rfl⟩
  obtain ⟨_, hname, hvalid⟩ := hwf.name
  obtain ⟨identifier, rfl⟩ := Identifier.isValid_iff.1 hvalid
  obtain ⟨placement, hnested, hpackage, -⟩ :=
    exists_placement_iff.2 ⟨hwf.nested, fun h => (hwf.topLevel h).package⟩
  obtain ⟨superclass, hsuperclass⟩ := hsuperclass
  obtain ⟨interfaces, hinterfaces⟩ := hinterfaces
  obtain ⟨statements, hstatements⟩ := exists_eq_map_some_iff.2 hwf.noGaps.1
  obtain ⟨methods, hmethods⟩ := exists_eq_map_some_iff.2 hwf.noGaps.2.1
  obtain ⟨nested, hdefinitions⟩ := exists_eq_map_some_iff.2 hwf.noGaps.2.2
  exact ⟨_, toDraft_eq hnested hpackage hname hsuperclass hinterfaces hstatements hmethods
    hdefinitions⟩

end ClassDraft

end JavaSyntax
