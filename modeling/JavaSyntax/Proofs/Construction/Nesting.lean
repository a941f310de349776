import JavaSyntax.Proofs.Construction.Rules
import JavaSyntax.Proofs.Imports.Declared
import Mathlib.Data.List.Chain

/-!
# Names of nested classes

A class that has the name of a class around it hides that class. Building a class compares its name
with the names of the classes directly in it, and never looks into these. So of the classes around
a class just the innermost one is sure to have another name: the chains of names that lead to the
classes of an accepted class are those in which neighbours differ, and all of those.
-/

set_option autoImplicit false

namespace JavaSyntax

/-- The names from the outermost class to this one. -/
def ClassName.chain (c : ClassName) : List Identifier := c.enclosing ++ [c.name]

theorem isChain_concat_iff {names : List Identifier} {last name : Identifier} :
    (names ++ [last] ++ [name]).IsChain (· ≠ ·) ↔
      (names ++ [last]).IsChain (· ≠ ·) ∧ last ≠ name := by
  rw [List.isChain_append]
  simp

/-! ## What is accepted -/

section Accepted

/-- Every class in a class, and the class itself, is well formed. -/
def ClassDefinition.WellFormedThroughout (c : ClassDefinition) : Prop :=
  ∀ d : ClassDefinition, (Node.definition d).Within (.definition c) → d.toDraft.WellFormed

namespace ClassDefinition

theorem WellFormedThroughout.of_obtainable {c : ClassDefinition}
    (hc : Obtainable (.definition c)) : c.WellFormedThroughout := by
  intro d hd
  have hlawful : (Node.definition d).Lawful true := hc.everywhere Made.lawful hd
  cases hlawful with
  | definition hwellFormed => exact hwellFormed

theorem WellFormedThroughout.nested {c d : ClassDefinition} (hc : c.WellFormedThroughout)
    (hd : d ∈ c.nested) : d.WellFormedThroughout :=
  fun e he => hc e (.child (List.mem_append_right _ (List.mem_map_of_mem hd)) he)

theorem WellFormedThroughout.name_ne {c d : ClassDefinition} (hc : c.WellFormedThroughout)
    (hd : d ∈ c.nested) : c.header.identifier ≠ d.header.identifier := by
  intro heq
  obtain ⟨-, hfresh⟩ := (hc c .self).nestedNames
  refine hfresh d.name ?_ ?_
  · simpa [toDraft] using ⟨d, hd, rfl⟩
  · simp [toDraft, name, heq]

end ClassDefinition

variable (package : List Identifier)

mutual
/-- From a chain whose neighbours differ, the classes in a class lead to such chains only. -/
theorem isChain_of_mem_declaredIn : ∀ (c : ClassDefinition) (enclosing : List Identifier),
    c.WellFormedThroughout → (enclosing ++ [c.header.identifier]).IsChain (· ≠ ·) →
    ∀ d ∈ c.declaredIn package enclosing, d.chain.IsChain (· ≠ ·)
  | ⟨h, ss, ms, nested⟩, enclosing => by
    intro hc hchain d hd
    rw [ClassDefinition.declaredIn, List.mem_cons] at hd
    rcases hd with rfl | hd
    · exact hchain
    · refine isChain_of_mem_declaredAllIn nested _ (fun n hn => ?_) d hd
      exact ⟨hc.nested hn, isChain_concat_iff.2 ⟨hchain, hc.name_ne hn⟩⟩

theorem isChain_of_mem_declaredAllIn : ∀ (cs : List ClassDefinition)
    (enclosing : List Identifier),
    (∀ c ∈ cs, c.WellFormedThroughout ∧
      (enclosing ++ [c.header.identifier]).IsChain (· ≠ ·)) →
    ∀ d ∈ declaredAllIn package enclosing cs, d.chain.IsChain (· ≠ ·)
  | [], enclosing => by
    intro _ d hd
    simp [declaredAllIn] at hd
  | c :: cs, enclosing => by
    intro hcs d hd
    obtain ⟨⟨hc, hchain⟩, hcs⟩ := List.forall_mem_cons.1 hcs
    rw [declaredAllIn, List.mem_append] at hd
    rcases hd with hd | hd
    · exact isChain_of_mem_declaredIn c _ hc hchain d hd
    · exact isChain_of_mem_declaredAllIn cs _ hcs d hd
end

end Accepted

/-- If neighbours differ, a class can hide none but the classes further out. -/
theorem ClassName.mem_enclosing_iff {c : ClassName} (h : c.chain.IsChain (· ≠ ·)) :
    c.name ∈ c.enclosing ↔ c.name ∈ c.enclosing.dropLast := by
  obtain hnil | ⟨outer, last, hlast⟩ := c.enclosing.eq_nil_or_concat
  · simp [hnil]
  · rw [chain, hlast, List.concat_eq_append, isChain_concat_iff] at h
    simp [hlast, h.2.symm]

/-! ## Everything else is accepted -/

/-- A class without members but the given classes. -/
def ClassDefinition.bare (placement : Placement) (name : Identifier)
    (nested : List ClassDefinition) : ClassDefinition :=
  { header :=
      { comments := []
        annotations := []
        placement := placement
        modifiers := {}
        identifier := name
        superclass := none
        interfaces := [] }
    statements := []
    methods := []
    nested := nested }

/-- Classes of the given names, each of them in the one before it. -/
def tower (placement : Placement) (name : Identifier) : List Identifier → ClassDefinition
  | [] => .bare placement name []
  | next :: rest => .bare placement name [tower .nested next rest]

theorem header_tower (placement : Placement) (name : Identifier) (rest : List Identifier) :
    (tower placement name rest).header = (ClassDefinition.bare placement name []).header := by
  cases rest <;> rfl

/-- A bare class is accepted if it is not in the package without a name, and the classes in it have
different names, none of them its own. -/
theorem wellFormed_bare {placement : Placement} {name : Identifier} {nested : List ClassDefinition}
    (hplacement : placement ≠ .topLevel []) (hmarked : ∀ c ∈ nested, c.isNested = true)
    (hnames : Fresh [name.text] (nested.map (·.name))) :
    (ClassDefinition.bare placement name nested).toDraft.WellFormed := by
  obtain ⟨hunpackaged, hpackaged⟩ := ClassDraft.exists_placement_iff.1
    ⟨placement, rfl, (ClassDraft.toDraft_package (.bare placement name nested)).symm, hplacement⟩
  constructor
  case name => exact ⟨name.text, rfl, Identifier.isValid_iff.2 ⟨name, rfl⟩⟩
  case nested => exact hunpackaged
  case topLevel => exact fun h => ⟨hpackaged h, rfl, .inr rfl⟩
  case modifiers => simp [ClassDefinition.bare, ClassDefinition.toDraft]
  case superclass => simp [ClassDefinition.bare, ClassDefinition.toDraft]
  case interfaces => simp [ClassDefinition.bare, ClassDefinition.toDraft]
  case noGaps => simp [ClassDefinition.bare, ClassDefinition.toDraft]
  case members =>
    constructor <;> simp [ClassDefinition.bare, ClassDefinition.toDraft]
  case constructors => simp [ClassDefinition.bare, ClassDefinition.toDraft]
  case marked => simpa [ClassDefinition.bare, ClassDefinition.toDraft] using hmarked
  case nestedNames =>
    simpa [ClassDefinition.bare, ClassDefinition.toDraft, ClassDefinition.name] using hnames

theorem obtainable_bare {placement : Placement} {name : Identifier} {nested : List ClassDefinition}
    (hplacement : placement ≠ .topLevel []) (hmarked : ∀ c ∈ nested, c.isNested = true)
    (hnames : Fresh [name.text] (nested.map (·.name)))
    (hnested : ∀ c ∈ nested, Obtainable (.definition c)) :
    Obtainable (.definition (.bare placement name nested)) := by
  have hbuild := ClassDraft.build_eq_ok_iff.2 ⟨wellFormed_bare hplacement hmarked hnames, rfl⟩
  have hdraft : (Draft.definition (ClassDefinition.bare placement name nested).toDraft).build
      = .ok (.definition (.bare placement name nested)) := by
    rw [Draft.build, hbuild]
    rfl
  refine .make (.build hdraft) ?_
  simpa [Draft.parts, presentStatements, ClassDefinition.bare, ClassDefinition.toDraft]
    using hnested

theorem obtainable_tower {placement : Placement} {name : Identifier} {rest : List Identifier}
    (hplacement : placement ≠ .topLevel []) (hchain : (name :: rest).IsChain (· ≠ ·)) :
    Obtainable (.definition (tower placement name rest)) := by
  induction rest generalizing placement name with
  | nil => exact obtainable_bare hplacement (by simp) (fresh_nil _) (by simp)
  | cons next rest ih =>
    obtain ⟨hne, hchain⟩ := List.isChain_cons_cons.1 hchain
    have hheader := header_tower .nested next rest
    refine obtainable_bare hplacement ?_ ?_ ?_
    · simp [ClassDefinition.isNested, hheader, ClassDefinition.bare, Placement.isNested]
    · rw [List.map_singleton, fresh_cons_iff]
      refine ⟨?_, fresh_nil _⟩
      simpa [ClassDefinition.name, hheader, ClassDefinition.bare, ← Identifier.ext_iff]
        using hne.symm
    · simpa using ih (by simp) hchain

/-- The names of the classes lead to the innermost of them. -/
theorem exists_chain_tower (package : List Identifier) (placement : Placement)
    (name : Identifier) (rest enclosing : List Identifier) :
    ∃ d ∈ (tower placement name rest).declaredIn package enclosing,
      d.chain = enclosing ++ name :: rest := by
  induction rest generalizing placement name enclosing with
  | nil => exact ⟨_, self_mem_declaredIn package enclosing _, rfl⟩
  | cons next rest ih =>
    obtain ⟨d, hd, hchain⟩ := ih .nested next (enclosing ++ [name])
    refine ⟨d, ?_, by simpa using hchain⟩
    rw [tower, ClassDefinition.bare, ClassDefinition.declaredIn, declaredAllIn, declaredAllIn,
      List.append_nil]
    exact List.mem_cons_of_mem _ hd

/-! ## All of it -/

/-- Two classes, one directly in the other, never have one name, so that in an accepted class
nothing is hidden but classes further out; and this is all that is asked for: every chain of names
whose neighbours differ leads to some class in an accepted class of the package. -/
theorem nested_names_of_obtainable (package : List Identifier) (hpackage : package ≠ []) :
    (∀ c, Obtainable (.definition c) → ∀ d ∈ c.declaredIn package [],
      d.chain.IsChain (· ≠ ·) ∧ (d.name ∈ d.enclosing ↔ d.name ∈ d.enclosing.dropLast)) ∧
    ∀ chain : List Identifier, chain ≠ [] → chain.IsChain (· ≠ ·) →
      ∃ c, Obtainable (.definition c) ∧ c.header.placement = .topLevel package ∧
        ∃ d ∈ c.declaredIn package [], d.chain = chain := by
  constructor
  · intro c hc d hd
    have hchain : d.chain.IsChain (· ≠ ·) :=
      isChain_of_mem_declaredIn package c [] (.of_obtainable hc) (by simp) d hd
    exact ⟨hchain, ClassName.mem_enclosing_iff hchain⟩
  · intro chain hne hchain
    obtain ⟨name, rest, rfl⟩ := List.exists_cons_of_ne_nil hne
    have hplacement : Placement.topLevel package ≠ .topLevel [] := by simpa using hpackage
    refine ⟨tower (.topLevel package) name rest, obtainable_tower hplacement hchain, ?_, ?_⟩
    · rw [header_tower]
      rfl
    · exact exists_chain_tower package _ name rest []

/-- A class `A` with a class `B` in it, in which a class `C` stands: nothing is hidden. -/
theorem nested_names_of_obtainable_distinct :
    let package : List Identifier := [{ text := "com" }]
    let chain : List Identifier := [{ text := "A" }, { text := "B" }, { text := "C" }]
    package ≠ [] ∧ chain.IsChain (· ≠ ·) ∧
      ∃ c, Obtainable (.definition c) ∧ c.header.placement = .topLevel package ∧
        ∃ d ∈ c.declaredIn package [], d.chain = chain ∧ d.name ∉ d.enclosing := by
  intro package chain
  have hpackage : package ≠ [] := by decide
  have hchain : chain.IsChain (· ≠ ·) := by decide
  obtain ⟨hnames, haccepted⟩ := nested_names_of_obtainable package hpackage
  obtain ⟨c, hc, hplacement, d, hd, heq⟩ := haccepted chain (by decide) hchain
  have hsplit : d.enclosing ++ [d.name] = [{ text := "A" }, { text := "B" }] ++ [{ text := "C" }] :=
    heq
  obtain ⟨henclosing, hname⟩ := List.append_inj' hsplit rfl
  refine ⟨hpackage, hchain, c, hc, hplacement, d, hd, heq, ?_⟩
  rw [(hnames c hc d hd).2, henclosing, List.singleton_inj.1 hname]
  decide

/-- A class `A` with a class `B` in it, in which another class `A` stands, is accepted. -/
theorem obtainable_hidden_class :
    let a : Identifier := { text := "A" }
    let c := tower (.topLevel [{ text := "com" }]) a [{ text := "B" }, a]
    Obtainable (.definition c) ∧
      ∃ d ∈ c.declaredIn [{ text := "com" }] [], d.name ∈ d.enclosing := by
  intro a c
  have hc : Obtainable (.definition c) := obtainable_tower (by simp) (by decide)
  obtain ⟨d, hd, hchain⟩ :=
    exists_chain_tower [{ text := "com" }] (.topLevel [{ text := "com" }]) a [{ text := "B" }, a] []
  have hsplit : d.enclosing ++ [d.name] = [a, { text := "B" }] ++ [a] := hchain
  obtain ⟨henclosing, hname⟩ := List.append_inj' hsplit rfl
  refine ⟨hc, d, hd, ?_⟩
  rw [henclosing, List.singleton_inj.1 hname]
  exact List.mem_cons_self

end JavaSyntax
