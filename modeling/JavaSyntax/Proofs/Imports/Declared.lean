import JavaSyntax.Proofs.Imports.Lines
import JavaSyntax.Writer

/-!
# Classes that a file declares

A class is written into a table in which its own name and the names of all classes nested in it
have been reserved, each for the first class that has it. So no import binds a name that the file
declares, the classes of the file are called by their chains of names, and other classes with one
of these names are called by their full names.
-/

set_option autoImplicit false

namespace JavaSyntax

mutual
/-- The classes that a class declares: itself, and then in order all classes nested in it. -/
def ClassDefinition.declaredIn (package enclosing : List Identifier) :
    ClassDefinition → List ClassName
  | ⟨h, _, _, nested⟩ =>
    { package := package, enclosing := enclosing, name := h.identifier } ::
      declaredAllIn package (enclosing ++ [h.identifier]) nested

/-- The classes that the classes of a list declare. -/
def declaredAllIn (package enclosing : List Identifier) : List ClassDefinition → List ClassName
  | [] => []
  | c :: cs => c.declaredIn package enclosing ++ declaredAllIn package enclosing cs
end

/-- The call that reserves the simple name of a declared class. -/
def ClassName.reservation (c : ClassName) : ImportCall :=
  .reserve (dotted (c.package ++ c.enclosing)) c.name.text

/-! ## Reserving is a run -/

section Reserving

variable (package : List Identifier)

mutual
theorem reserveNames_eq_run : ∀ (c : ClassDefinition) (t : ImportTable)
    (enclosing : List Identifier),
    Writer.reserveNames t (dotted (package ++ enclosing)) c
      = t.run ((c.declaredIn package enclosing).map ClassName.reservation)
  | ⟨h, _, _, nested⟩, t, enclosing => by
    rw [Writer.reserveNames, ClassDefinition.declaredIn, List.map_cons, ImportTable.run_cons,
      qualify_dotted, List.append_assoc]
    exact reserveAllNames_eq_run nested _ _

theorem reserveAllNames_eq_run : ∀ (cs : List ClassDefinition) (t : ImportTable)
    (enclosing : List Identifier),
    Writer.reserveAllNames t (dotted (package ++ enclosing)) cs
      = t.run ((declaredAllIn package enclosing cs).map ClassName.reservation)
  | [], t, enclosing => rfl
  | c :: cs, t, enclosing => by
    rw [Writer.reserveAllNames, declaredAllIn, List.map_append, ImportTable.run_append,
      reserveNames_eq_run c, reserveAllNames_eq_run cs]
end

mutual
/-- A declared class lies in the package, in the classes around the declaring class and in that
class itself. -/
theorem chain_of_mem_declaredIn : ∀ (c : ClassDefinition) (enclosing : List Identifier),
    ∀ d ∈ c.declaredIn package enclosing, d.package = package ∧
      ∃ rest, d.enclosing ++ [d.name] = enclosing ++ c.header.identifier :: rest
  | ⟨h, _, _, nested⟩, enclosing => by
    intro d hd
    rw [ClassDefinition.declaredIn, List.mem_cons] at hd
    rcases hd with rfl | hd
    · exact ⟨rfl, [], rfl⟩
    · obtain ⟨hpackage, rest, hchain⟩ := chain_of_mem_declaredAllIn nested _ d hd
      exact ⟨hpackage, rest, by simpa using hchain⟩

theorem chain_of_mem_declaredAllIn : ∀ (cs : List ClassDefinition) (enclosing : List Identifier),
    ∀ d ∈ declaredAllIn package enclosing cs, d.package = package ∧
      ∃ rest, d.enclosing ++ [d.name] = enclosing ++ rest
  | [], enclosing => by
    intro d hd
    simp [declaredAllIn] at hd
  | c :: cs, enclosing => by
    intro d hd
    rw [declaredAllIn, List.mem_append] at hd
    rcases hd with hd | hd
    · obtain ⟨hpackage, rest, hchain⟩ := chain_of_mem_declaredIn c _ d hd
      exact ⟨hpackage, _, hchain⟩
    · exact chain_of_mem_declaredAllIn cs _ d hd
end

end Reserving

theorem self_mem_declaredIn (package enclosing : List Identifier) (c : ClassDefinition) :
    ⟨package, enclosing, c.header.identifier⟩ ∈ c.declaredIn package enclosing := by
  obtain ⟨h, ss, ms, nested⟩ := c
  rw [ClassDefinition.declaredIn]
  exact List.mem_cons_self

/-- All classes of a file have the declared class as their outermost one. -/
theorem topLevel_of_mem_declaredIn {package : List Identifier} {c : ClassDefinition}
    {d : ClassName} (h : d ∈ c.declaredIn package []) : d.topLevel = c.header.identifier := by
  obtain ⟨-, rest, hchain⟩ := chain_of_mem_declaredIn package c [] d h
  obtain ⟨others, hothers⟩ := d.exists_chain_eq
  exact (List.cons.inj (hothers.symm.trans hchain)).1

namespace ImportTable

theorem enterAll_eq_run (t : ImportTable) (rs : List Reference) :
    t.enterAll rs = t.run (rs.map .register) := by
  rw [enterAll, run, List.foldl_map]
  rfl

theorem claimants_reservations (t : ImportTable) (ds : List ClassName) :
    t.claimants (ds.map ClassName.reservation) = [] := by
  induction ds generalizing t with
  | nil => rfl
  | cons d ds ih => exact ih _

/-- A reserved name means the first class that has it. -/
theorem meaning?_run_reservations (t : ImportTable) (ds : List ClassName) (name : String) :
    (t.run (ds.map ClassName.reservation)).meaning? name
      = (t.meaning? name).or ((ds.find? (·.name.text == name)).map (·.fullName)) := by
  induction ds generalizing t with
  | nil => simp
  | cons d ds ih =>
    have hstep : (t.step d.reservation).meaning? name
        = (t.meaning? name).or (if d.name.text = name then some d.fullName else none) := by
      rw [d.fullName_eq_qualify]
      exact meaning?_claim _ _ _
    rw [List.map_cons, run_cons, ih, hstep, Option.or_assoc, List.find?_cons]
    by_cases hname : d.name.text = name
    · simp [hname]
    · have hne : (d.name.text == name) = false := by simpa using hname
      simp [hname, hne]

end ImportTable

namespace Writer

/-! ## The table of a written class -/

section Written

variable {w : Writer} {c : ClassDefinition} {package : List Identifier}

theorem imports_writeClass (hplace : c.header.placement = .topLevel package) :
    (w.writeClass c).2.imports
      = (ImportTable.empty (dotted package)).run
          ((c.declaredIn package []).map ClassName.reservation ++
            (Doc.references c.doc).map .register) := by
  have hpackage : c.packageName = dotted package := by
    rw [ClassDefinition.packageName, hplace]
    rfl
  have hreserve := reserveNames_eq_run package c (ImportTable.empty (dotted package)) []
  rw [List.append_nil] at hreserve
  change (reserveNames (ImportTable.empty c.packageName) c.packageName c).enterAll
    (Doc.references c.doc) = _
  rw [hpackage, hreserve, ImportTable.enterAll_eq_run, ImportTable.run_append]

/-- A declared name means the first class of the file that has it. -/
theorem meaning?_writeClass (hplace : c.header.placement = .topLevel package) {name : String}
    {first : ClassName}
    (hfirst : (c.declaredIn package []).find? (·.name.text == name) = some first) :
    (w.writeClass c).2.imports.meaning? name = some first.fullName := by
  rw [imports_writeClass hplace, ImportTable.run_append]
  apply ImportTable.meaning?_run_of_some
  rw [ImportTable.meaning?_run_reservations, hfirst]
  rfl

theorem exists_meaning?_writeClass (hplace : c.header.placement = .topLevel package)
    {d : ClassName} (hd : d ∈ c.declaredIn package []) :
    ∃ first ∈ c.declaredIn package [],
      (w.writeClass c).2.imports.meaning? d.name.text = some first.fullName := by
  cases hfind : (c.declaredIn package []).find? (·.name.text == d.name.text) with
  | none => exact absurd (List.find?_eq_none.1 hfind d hd) (by simp)
  | some first => exact ⟨first, List.mem_of_find?_eq_some hfind, meaning?_writeClass hplace hfind⟩

/-- The name of the class itself means that class. -/
theorem meaning?_writeClass_topLevel (hplace : c.header.placement = .topLevel package) :
    (w.writeClass c).2.imports.meaning? c.header.identifier.text
      = some (qualify (dotted package) c.header.identifier.text) := by
  obtain ⟨h, ss, ms, nested⟩ := c
  have hfirst : (ClassDefinition.declaredIn package [] ⟨h, ss, ms, nested⟩).find?
      (·.name.text == h.identifier.text) = some ⟨package, [], h.identifier⟩ := by
    simp [ClassDefinition.declaredIn]
  rw [meaning?_writeClass hplace hfirst, ClassName.fullName_eq_qualify, List.append_nil]

theorem boundName_ne_of_declared (hplace : c.header.placement = .topLevel package) {line : String}
    (hline : line ∈ (w.writeClass c).1.imports) {d : ClassName}
    (hd : d ∈ c.declaredIn package []) : boundName line ≠ d.name.text := by
  change line ∈ (w.writeClass c).2.imports.imports at hline
  rw [imports_writeClass hplace, ImportTable.mem_imports_run, ImportTable.claimants_append,
    ImportTable.claimants_reservations, List.nil_append] at hline
  obtain ⟨r, hr, hlineOf⟩ := hline.resolve_left (by simp [ImportTable.empty])
  obtain ⟨hwild, hfree⟩ := ImportTable.meaning?_of_mem_claimants hr
  rw [ImportTable.boundName_of_importLine? hwild hlineOf]
  intro hname
  rw [hname, ImportTable.meaning?_run_reservations] at hfree
  have hnone := (Option.or_eq_none_iff.1 hfree).2
  rw [Option.map_eq_none_iff, List.find?_eq_none] at hnone
  exact hnone d hd (by simp)

end Written

/-- A written file never imports over its own classes, whatever the options. No import line binds
a name that the file declares; a class of the file is written without an import and, unless it is
imported statically, as its chain of names; and any other class whose simple name the file
declares is written in full. -/
theorem writeClass_keeps_declared (w : Writer) (c : ClassDefinition) (package : List Identifier)
    (hplace : c.header.placement = .topLevel package) :
    (w.writeClass c).1.source
      = Doc.write w.options.indentWidth 0 (w.writeClass c).2.imports.nameOf c.doc ∧
    (∀ line ∈ (w.writeClass c).1.imports, ∀ d ∈ c.declaredIn package [],
      boundName line ≠ d.name.text) ∧
    (∀ r ∈ Doc.references c.doc, ∀ d ∈ c.declaredIn package [], r.className? = some d →
      (r.isStaticImport = false → (w.writeClass c).2.imports.nameOf r = d.simpleName) ∧
      "import " ++ qualify d.packageName d.topLevel.text ++ ";" ∉ (w.writeClass c).1.imports ∧
      "import static " ++ d.fullName ++ ";" ∉ (w.writeClass c).1.imports) ∧
    (∀ r ∈ Doc.references c.doc,
      (∃ d ∈ c.declaredIn package [], r.binding.name = d.name.text) →
      (∀ d ∈ c.declaredIn package [], r.binding.meaning ≠ d.fullName) →
        (w.writeClass c).2.imports.nameOf r = r.fullName) := by
  refine ⟨String.empty_append, fun line hline d hd => boundName_ne_of_declared hplace hline hd,
    ?_, ?_⟩
  · intro r _ d hd hclass
    have htop := topLevel_of_mem_declaredIn hd
    have hpackage := (chain_of_mem_declaredIn package c [] d hd).1
    refine ⟨?_, ?_, ?_⟩
    · intro hstatic
      have hbinding : r.binding = ⟨d.topLevel.text, qualify d.packageName d.topLevel.text⟩ := by
        simp [Reference.binding, hstatic, Reference.topLevelName, Reference.packageName, hclass]
      have hmeaning := meaning?_writeClass_topLevel (w := w) hplace
      rw [ImportTable.nameOf, hbinding, htop, ClassName.packageName, hpackage, if_pos hmeaning]
      simp [Reference.shortName, hstatic, Reference.simpleName, hclass]
    · intro hline
      apply boundName_ne_of_declared hplace hline (self_mem_declaredIn package [] c)
      rw [htop]
      exact boundName_qualify "import" d.packageName c.header.identifier
    · intro hline
      apply boundName_ne_of_declared hplace hline hd
      rw [d.fullName_eq_qualify]
      exact boundName_qualify "import static" _ d.name
  · rintro r _ ⟨d, hd, hname⟩ hother
    obtain ⟨first, hfirst, hmeaning⟩ := exists_meaning?_writeClass (w := w) hplace hd
    rw [ImportTable.nameOf, hname, hmeaning, if_neg]
    intro heq
    exact hother first hfirst (Option.some.inj heq).symm

/-- A class with a nested class extends another class of the nested name and implements its own. -/
theorem writeClass_keeps_declared_builder :
    let builder : ClassName :=
      { package := [{ text := "com" }], enclosing := [{ text := "Outer" }]
        name := { text := "Builder" } }
    let own : Reference := .compiled builder [] [] false
    let foreign : Reference :=
      .compiled { package := [{ text := "org" }], enclosing := [], name := { text := "Builder" } }
        [] [] false
    let header (placement : Placement) (name : Identifier) : ClassHeader :=
      { comments := [], annotations := [], placement := placement, modifiers := {}
        identifier := name, superclass := none, interfaces := [] }
    let outer : ClassDefinition :=
      { header :=
          { header (.topLevel [{ text := "com" }]) { text := "Outer" } with
            superclass := some foreign
            interfaces := [own] }
        statements := []
        methods := []
        nested := [⟨header .nested { text := "Builder" }, [], [], []⟩] }
    let result := (ofOptions {}).writeClass outer
    result.2.imports.nameOf own = "Outer.Builder" ∧
      result.2.imports.nameOf foreign = "org.Builder" ∧
      "import com.Outer;" ∉ result.1.imports ∧
      (∀ line ∈ result.1.imports, boundName line ≠ "Builder") := by
  intro builder own foreign header outer result
  have hreferences : Doc.references outer.doc = [foreign, own] := by
    simp only [outer, header, own, foreign, ClassDefinition.doc, classDocs, methodDocs]
    simp [Doc.references, Layout.preamble, Layout.annotationLines, Layout.classHead, Layout.clause,
      Doc.braced, Doc.line, Doc.nest, Doc.blankSeparated, Doc.words, Doc.ofText, Doc.commaSeparated,
      Modifiers.words, Access.keyword?, Reference.doc, Reference.argumentsDoc, List.intercalate,
      List.filterMap, Piece.reference?, Piece.nest]
  have hdeclared : outer.declaredIn [{ text := "com" }] []
      = [⟨[{ text := "com" }], [], { text := "Outer" }⟩, builder] := rfl
  obtain ⟨-, hbound, hchain, hfull⟩ :=
    writeClass_keeps_declared (ofOptions {}) outer [{ text := "com" }] rfl
  rw [hreferences, hdeclared] at hchain hfull
  rw [hdeclared] at hbound
  have hbuilder : builder ∈ [⟨[{ text := "com" }], [], { text := "Outer" }⟩, builder] :=
    List.mem_cons_of_mem _ List.mem_cons_self
  obtain ⟨hshort, hnone, -⟩ := hchain own (List.mem_cons_of_mem _ List.mem_cons_self) _ hbuilder rfl
  have hforeign := hfull foreign List.mem_cons_self ⟨builder, hbuilder, by decide⟩ (by decide)
  exact ⟨(hshort rfl).trans (by decide), hforeign.trans (by decide), hnone,
    fun line hline => hbound line hline builder hbuilder⟩

end Writer

end JavaSyntax
