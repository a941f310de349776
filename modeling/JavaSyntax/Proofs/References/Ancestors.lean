import JavaSyntax.Reference.Draft

/-!
# What a class inherits from

The ancestors of a class that exists already are a list, which is put together from the table of
well-known classes and from what is declared. No step of this follows the supertypes of supertypes
any further: that nothing is missing rests on the rows of the table, each of which holds whatever
its members inherit from. A class that is being generated inherits what its parent does, through any
number of parents.
-/

set_option autoImplicit false

namespace JavaSyntax

/-! ## Lists of ancestors -/

namespace Ancestry

/-- The table says it all: whatever a supertype inherits from is among the supertypes itself. -/
theorem ofClass_subset_of_mem_wellKnown :
    ∀ row ∈ wellKnown, ∀ name ∈ row.2, ofClass name ⊆ row.2 := by
  decide +kernel

theorem nodup_of_mem_wellKnown : ∀ row ∈ wellKnown, row.2.Nodup := by decide +kernel

/-- A class is in the table, or inherits from the class of everything alone. -/
theorem mem_wellKnown_or_ofClass_eq (name : String) :
    (name, ofClass name) ∈ wellKnown ∨ name ≠ objectClass ∧ ofClass name = plain := by
  unfold ofClass
  cases hrow : wellKnown.lookup name with
  | some ancestors =>
    obtain ⟨before, after, heq, -⟩ := List.lookup_eq_some_iff.1 hrow
    exact .inl (heq ▸ List.mem_append_right _ List.mem_cons_self)
  | none =>
    refine .inr ⟨?_, rfl⟩
    rintro rfl
    cases hrow

theorem mem_ofClass_trans {name parent ancestor : String} (hparent : parent ∈ ofClass name)
    (hancestor : ancestor ∈ ofClass parent) : ancestor ∈ ofClass name := by
  obtain hrow | ⟨-, hplain⟩ := mem_wellKnown_or_ofClass_eq name
  · exact ofClass_subset_of_mem_wellKnown _ hrow parent hparent hancestor
  · obtain rfl : parent = objectClass := by simpa [hplain, plain] using hparent
    cases hancestor

/-- A list that names no class twice, and with a class all that it inherits from. -/
structure IsClosed (names : List String) : Prop where
  nodup : names.Nodup
  inherited : ∀ name ∈ names, ofClass name ⊆ names

theorem isClosed_ofClass (name : String) : IsClosed (ofClass name) where
  nodup := by
    obtain hrow | ⟨-, hplain⟩ := mem_wellKnown_or_ofClass_eq name
    · exact nodup_of_mem_wellKnown _ hrow
    · rw [hplain]
      decide
  inherited _ hparent _ hancestor := mem_ofClass_trans hparent hancestor

/-- One declared supertype brings its own supertypes along. -/
theorem IsClosed.merge {known : List String} (h : IsClosed known) (supertype : String) :
    IsClosed (merge known (supertype :: ofClass supertype)) where
  nodup := nodup_merge h.nodup
  inherited := by
    intro name hname ancestor hancestor
    rw [mem_merge, List.mem_cons] at hname ⊢
    obtain hknown | rfl | hmem := hname
    · exact .inl (h.inherited name hknown hancestor)
    · exact .inr (.inr hancestor)
    · exact .inr (.inr (mem_ofClass_trans hmem hancestor))

/-- The declared supertypes are merged one after the other into what is known. -/
theorem isClosed_foldl_merge {known : List String} (h : IsClosed known) (declared : List String) :
    IsClosed (declared.foldl (fun known s => Ancestry.merge known (s :: ofClass s)) known) := by
  induction declared generalizing known with
  | nil => exact h
  | cons supertype declared ih => exact ih (h.merge supertype)

theorem isClosed_ofDeclared (declared : List String) : IsClosed (ofDeclared declared) :=
  isClosed_foldl_merge ⟨List.nodup_nil, by simp⟩ declared

theorem mem_foldl_merge {known declared : List String} {name : String} :
    name ∈ declared.foldl (fun known s => Ancestry.merge known (s :: ofClass s)) known ↔
      name ∈ known ∨ ∃ s ∈ declared, name = s ∨ name ∈ ofClass s := by
  induction declared generalizing known with
  | nil => simp
  | cons supertype declared ih =>
    rw [List.foldl_cons, ih, mem_merge, List.mem_cons]
    simp [or_assoc]

/-- What is declared, and what that inherits from, is all that there is. -/
theorem mem_ofDeclared {declared : List String} {name : String} :
    name ∈ ofDeclared declared ↔ ∃ s ∈ declared, name = s ∨ name ∈ ofClass s := by
  rw [ofDeclared, mem_foldl_merge]
  simp

end Ancestry

/-! ## Ancestors of a class -/

/-- The ancestors of a class that exists already are those that are declared, and else those of the
table. -/
theorem CompiledDraft.ancestors_of_build {draft : CompiledDraft} {r : Reference}
    (h : draft.build = .ok r) :
    ∃ text, draft.className = some text ∧
      r.ancestors = draft.supertypes.elim (Ancestry.ofClass text) Ancestry.ofDeclared := by
  obtain ⟨text, c, htext, -, rfl⟩ := build_eq_ok_iff.1 h
  exact ⟨text, htext, rfl⟩

namespace Reference

/-- What a class is or inherits from, through any number of parents. -/
inductive Inherits (fullName : String) : Reference → Prop where
  /-- Every class is called by its own name. -/
  | self {r : Reference} (h : r.fullName = fullName) : Inherits fullName r
  /-- A class that exists already lists its supertypes. -/
  | listed {c : ClassName} {arguments : List Reference} {supertypes : List String}
      {isStaticImport : Bool} (h : fullName ∈ supertypes) :
      Inherits fullName (compiled c arguments supertypes isStaticImport)
  /-- A class that is being generated inherits what its parent does. -/
  | parent {c : ClassName} {arguments : List Reference} {parent : Reference}
      {isStaticImport : Bool} (h : Inherits fullName parent) :
      Inherits fullName (generated c arguments (some parent) isStaticImport)
  /-- Without a parent it inherits from the class of everything. -/
  | top {c : ClassName} {arguments : List Reference} {isStaticImport : Bool}
      (h : fullName = Ancestry.objectClass) :
      Inherits fullName (generated c arguments none isStaticImport)

theorem isSubtypeOf_iff {r : Reference} {fullName : String} :
    r.isSubtypeOf fullName = true ↔ r.fullName = fullName ∨ fullName ∈ r.ancestors := by
  simp [isSubtypeOf]

/-- A parent passes on its name and whatever it inherits, and nothing else is inherited. -/
theorem isSubtypeOf_generated_iff {c : ClassName} {arguments : List Reference}
    {parent : Option Reference} {isStaticImport : Bool} {fullName : String} :
    (generated c arguments parent isStaticImport).isSubtypeOf fullName = true ↔
      c.fullName = fullName ∨ (∃ p, parent = some p ∧ p.isSubtypeOf fullName = true) ∨
        parent = none ∧ fullName = Ancestry.objectClass := by
  rw [isSubtypeOf_iff]
  apply or_congr Iff.rfl
  cases parent with
  | none => simp [ancestors, Ancestry.plain]
  | some p =>
    have hparent : fullName ∈ p.fullName :: p.ancestors ↔ p.isSubtypeOf fullName = true := by
      rw [isSubtypeOf_iff, List.mem_cons, @eq_comm _ fullName]
    simpa [ancestors] using hparent

theorem isSubtypeOf_iff_inherits {r : Reference} {fullName : String} :
    r.isSubtypeOf fullName = true ↔ r.Inherits fullName := by
  constructor
  · intro h
    fun_induction ancestors r with
    | case1 => exact .self (by simpa [isSubtypeOf_iff, ancestors] using h)
    | case2 c arguments supertypes isStaticImport =>
      rcases isSubtypeOf_iff.1 h with h | h
      · exact .self h
      · exact .listed h
    | case3 c arguments isStaticImport =>
      obtain h | ⟨p, hp, -⟩ | ⟨-, h⟩ := isSubtypeOf_generated_iff.1 h
      · exact .self h
      · cases hp
      · exact .top h
    | case4 c arguments isStaticImport parent ih =>
      obtain h | ⟨p, hp, h⟩ | ⟨hp, -⟩ := isSubtypeOf_generated_iff.1 h
      · exact .self h
      · cases hp
        exact .parent (ih h)
      · cases hp
  · intro h
    induction h with
    | self h => exact isSubtypeOf_iff.2 (.inl h)
    | listed h => exact isSubtypeOf_iff.2 (.inr h)
    | parent _ ih => exact isSubtypeOf_generated_iff.2 (.inr (.inl ⟨_, rfl, ih⟩))
    | top h => exact isSubtypeOf_generated_iff.2 (.inr (.inr ⟨rfl, h⟩))

/-- Nothing is missing from what a class inherits from. The ancestors of a class that exists already
hold all that is declared, each once, and with a class whatever that is known to inherit from; if
anything is declared, they hold nothing else. A class that is being generated is what its name says,
and inherits what its parent is and inherits, or without a parent from the class of everything; so
it inherits what any of its parents passes on, and nothing else. -/
theorem ancestors_closed :
    (∀ (draft : CompiledDraft) (r : Reference), draft.build = .ok r →
      r.ancestors.Nodup ∧
      (∀ declared, draft.supertypes = some declared → declared ⊆ r.ancestors ∧
        ∀ name ∈ r.ancestors, ∃ s ∈ declared, name = s ∨ name ∈ Ancestry.ofClass s) ∧
      ∀ name ∈ r.ancestors, Ancestry.ofClass name ⊆ r.ancestors) ∧
    (∀ (c : ClassName) (arguments : List Reference) (parent : Option Reference)
      (isStaticImport : Bool) (fullName : String),
      (generated c arguments parent isStaticImport).isSubtypeOf fullName = true ↔
        c.fullName = fullName ∨ (∃ p, parent = some p ∧ p.isSubtypeOf fullName = true) ∨
          parent = none ∧ fullName = Ancestry.objectClass) ∧
    ∀ (r : Reference) (fullName : String),
      r.isSubtypeOf fullName = true ↔ r.Inherits fullName := by
  refine ⟨fun draft r h => ?_, fun _ _ _ _ _ => isSubtypeOf_generated_iff,
    fun _ _ => isSubtypeOf_iff_inherits⟩
  obtain ⟨text, -, hancestors⟩ := CompiledDraft.ancestors_of_build h
  have hclosed : Ancestry.IsClosed r.ancestors := by
    rw [hancestors]
    cases draft.supertypes with
    | none => exact Ancestry.isClosed_ofClass text
    | some declared => exact Ancestry.isClosed_ofDeclared declared
  refine ⟨hclosed.nodup, fun declared hdeclared => ?_, hclosed.inherited⟩
  have hmem (name : String) : name ∈ r.ancestors ↔
      ∃ s ∈ declared, name = s ∨ name ∈ Ancestry.ofClass s := by
    rw [hancestors, hdeclared]
    exact Ancestry.mem_ofDeclared
  exact ⟨fun name hname => (hmem name).2 ⟨name, hname, .inl rfl⟩, fun name => (hmem name).1⟩

/-- An exception that declares two supertypes, of which the table holds one, and a generated class
below a generated class below it. -/
theorem ancestors_closed_failure :
    let draft : CompiledDraft :=
      { className := some "com.foo.Failure"
        supertypes := some ["java.lang.RuntimeException", "java.io.Closeable"] }
    let below (name : Identifier) (parent : Reference) : Reference :=
      generated ⟨[{ text := "com" }, { text := "bar" }], [], name⟩ [] (some parent) false
    ∃ r, draft.build = .ok r ∧
      r.ancestors = ["java.lang.RuntimeException", "java.lang.Exception", "java.lang.Throwable",
        "java.lang.Object", "java.io.Closeable"] ∧
      r.ancestors.Nodup ∧ Ancestry.ofClass "java.io.Closeable" ⊆ r.ancestors ∧
      (below { text := "Last" } (below { text := "First" } r)).isSubtypeOf "java.lang.Exception"
        = true := by
  intro draft below
  obtain ⟨r, hr, hlist⟩ : ∃ r, draft.build = .ok r ∧
      r.ancestors = ["java.lang.RuntimeException", "java.lang.Exception", "java.lang.Throwable",
        "java.lang.Object", "java.io.Closeable"] := ⟨_, rfl, by decide +kernel⟩
  obtain ⟨hmade, -, hinherits⟩ := ancestors_closed
  obtain ⟨hnodup, -, hinherited⟩ := hmade draft r hr
  have hlisted : r.isSubtypeOf "java.lang.Exception" = true :=
    isSubtypeOf_iff.2 (.inr (by simp [hlist]))
  exact ⟨r, hr, hlist, hnodup, hinherited _ (by simp [hlist]),
    (hinherits _ _).2 (.parent (.parent ((hinherits _ _).1 hlisted)))⟩

end Reference

end JavaSyntax
