import JavaSyntax.Proofs.Imports.Lines

/-!
# What has been registered

Registering a class settles how it is written: its simple name has a meaning from then on, so the
same class, imported in the same way, is called the same by every later call, with whatever type
arguments, and nothing more is claimed or imported for it. The references of a table are those that
were registered, up to repetitions. A repetition is recognised by dotted names and the number of
type arguments, and dotted names tell all classes apart.
-/

set_option autoImplicit false

namespace JavaSyntax

/-! ## Dotted names tell classes apart -/

theorem dotted_eq_dotted_iff {parts others : List Identifier} :
    dotted parts = dotted others ↔ parts = others := by
  refine ⟨fun h => ?_, congrArg dotted⟩
  by_cases hparts : parts = []
  · subst hparts
    by_contra hothers
    exact dotted_ne_empty (Ne.symm hothers) h.symm
  · by_cases hothers : others = []
    · subst hothers
      exact absurd h (dotted_ne_empty hparts)
    · exact dotted_injective hparts hothers h

namespace Reference

variable {r s : Reference}

theorem simpleName_eq_qualify (r : Reference) :
    r.simpleName = qualify (dotted r.enclosing) r.name := by
  rw [simpleName, enclosing, name]
  cases r.className? with
  | none => rfl
  | some c => exact (qualify_dotted c.enclosing c.name).symm

/-- No class has the name of the unknown class. -/
theorem simpleName_ne_wildcardName (c : ClassName) : c.simpleName ≠ wildcardName := by
  intro h
  have hmark : '?' ∈ (dotted (c.enclosing ++ [c.name])).toList := by
    rw [← ClassName.simpleName, h]
    decide
  rcases eq_dot_or_isPart_of_mem_dotted hmark with hdot | hpart
  · exact absurd hdot (by decide)
  · exact absurd hpart (by decide)

/-- The package and the name inside it, as texts, tell which class is named. -/
theorem className?_eq_iff_simpleName :
    r.className? = s.className? ↔ r.packageName = s.packageName ∧ r.simpleName = s.simpleName := by
  rw [packageName, packageName, simpleName, simpleName]
  cases r.className? with
  | none => cases s.className? with
    | none => simp
    | some d => simp [Ne.symm (simpleName_ne_wildcardName d)]
  | some c => cases s.className? with
    | none => simp [simpleName_ne_wildcardName c]
    | some d =>
      simp only [Option.some.injEq, Option.elim_some, ClassName.packageName, ClassName.simpleName,
        dotted_eq_dotted_iff]
      constructor
      · rintro rfl
        exact ⟨rfl, rfl⟩
      · rintro ⟨hpackage, hchain⟩
        obtain ⟨henclosing, hname⟩ := List.append_inj' hchain rfl
        cases c
        cases d
        exact (ClassName.mk.injEq ..).mpr ⟨hpackage, henclosing, (List.cons.inj hname).1⟩

/-- So do the package, the classes around the class, and its own name. -/
theorem className?_eq_iff_enclosing :
    r.className? = s.className? ↔
      r.packageName = s.packageName ∧ r.enclosing = s.enclosing ∧ r.name = s.name := by
  constructor
  · intro h
    rw [packageName, enclosing, name, h]
    exact ⟨rfl, rfl, rfl⟩
  · rintro ⟨hpackage, henclosing, hname⟩
    rw [className?_eq_iff_simpleName, simpleName_eq_qualify, simpleName_eq_qualify, henclosing, hname]
    exact ⟨hpackage, rfl⟩

/-- Whether two references are to one class and imported in the same way. -/
structure SameImport (r s : Reference) : Prop where
  packageName : r.packageName = s.packageName
  enclosing : r.enclosing = s.enclosing
  name : r.name = s.name
  isStaticImport : r.isStaticImport = s.isStaticImport

/-- Whether no table tells two references apart: the class is the same, and the number of type
arguments. -/
def indistinct (r s : Reference) : Bool :=
  decide (r.packageName = s.packageName ∧ r.enclosing = s.enclosing ∧ r.name = s.name ∧
    r.arguments.length = s.arguments.length)

theorem SameImport.className?_eq (h : r.SameImport s) : r.className? = s.className? :=
  className?_eq_iff_enclosing.2 ⟨h.packageName, h.enclosing, h.name⟩

/-- What a class needs of a file does not depend on its type arguments. -/
theorem binding_congr (hclass : r.className? = s.className?)
    (hstatic : r.isStaticImport = s.isStaticImport) : r.binding = s.binding := by
  simp only [binding, fullName, topLevelName, Reference.name, Reference.packageName, hclass, hstatic]

theorem shortName_congr (hclass : r.className? = s.className?)
    (hstatic : r.isStaticImport = s.isStaticImport) : r.shortName = s.shortName := by
  simp only [shortName, simpleName, Reference.name, hclass, hstatic]

theorem indistinct_iff :
    r.indistinct s = true ↔
      r.className? = s.className? ∧ r.arguments.length = s.arguments.length := by
  rw [indistinct, decide_eq_true_iff, className?_eq_iff_enclosing, and_assoc, and_assoc]

theorem importKey?_eq_iff (hr : r.isWildcard = false) :
    r.importKey? = s.importKey? ↔ r.indistinct s = true := by
  obtain ⟨c, hc⟩ := exists_className hr
  rw [indistinct_iff, importKey?, importKey?, hc]
  cases s.className? with
  | none => simp
  | some d => simp

end Reference

namespace ImportTable

/-! ## Registered classes are settled -/

/-- Whether registering a reference leaves nothing to claim: the class is unknown, or its simple
name has a meaning. -/
def IsSettled (t : ImportTable) (r : Reference) : Prop :=
  r.isWildcard = true ∨ (t.meaning? r.binding.name).isSome = true

variable {t : ImportTable} {r s : Reference}

theorem isSettled_enter (t : ImportTable) (r : Reference) : (t.enter r).IsSettled r := by
  cases h : r.isWildcard with
  | true => exact .inl h
  | false =>
    right
    rw [meaning?_enter, h]
    cases t.meaning? r.binding.name <;> simp

theorem IsSettled.step (h : t.IsSettled r) (call : ImportCall) : (t.step call).IsSettled r := by
  refine h.imp_right fun hsome => ?_
  obtain ⟨meaning, hmeaning⟩ := Option.isSome_iff_exists.1 hsome
  rw [meaning?_step_of_some hmeaning]
  rfl

theorem IsSettled.run (h : t.IsSettled r) (calls : List ImportCall) : (t.run calls).IsSettled r := by
  induction calls generalizing t with
  | nil => exact h
  | cons call calls ih => exact ih (h.step call)

theorem IsSettled.congr (h : t.IsSettled r) (hrs : r.SameImport s) : t.IsSettled s := by
  rw [IsSettled, Reference.isWildcard, ← hrs.className?_eq,
    ← Reference.binding_congr hrs.className?_eq hrs.isStaticImport]
  exact h

/-- Of a settled reference, a table only notes that it has met it. -/
theorem IsSettled.enter_eq (h : t.IsSettled r) : t.enter r = t ∨ t.enter r = t.record r := by
  unfold enter
  rcases h with hwild | hmeaning
  · exact .inl (if_pos hwild)
  · rw [if_pos hmeaning]
    exact ite_eq_or_eq ..

/-- The unknown class is called the same in every table. -/
theorem nameOf_eq_of_isWildcard (h : r.isWildcard = true) (t u : ImportTable) :
    t.nameOf r = u.nameOf r := by
  cases r with
  | wildcard as =>
    have hname (t : ImportTable) : t.nameOf (.wildcard as) = Reference.wildcardName := ite_self _
    rw [hname, hname]
  | compiled c as supertypes isStatic => cases h
  | generated c as parent isStatic => cases h

/-- Later calls do not change how a settled reference is written. -/
theorem IsSettled.nameOf_run (h : t.IsSettled r) (calls : List ImportCall) :
    (t.run calls).nameOf r = t.nameOf r := by
  rcases h with hwild | hsome
  · exact nameOf_eq_of_isWildcard hwild _ _
  · obtain ⟨meaning, hmeaning⟩ := Option.isSome_iff_exists.1 hsome
    rw [nameOf, nameOf, meaning?_run_of_some hmeaning, hmeaning]

theorem nameOf_congr (hrs : r.SameImport s) : t.nameOf r = t.nameOf s := by
  have hclass := hrs.className?_eq
  rw [nameOf, nameOf, Reference.binding_congr hclass hrs.isStaticImport,
    Reference.shortName_congr hclass hrs.isStaticImport, Reference.fullName, Reference.fullName,
    hclass]

theorem claims_record (t : ImportTable) (r : Reference) : (t.record r).claims = t.claims := by
  unfold record
  split <;> rfl

theorem IsSettled.claims_enter (h : t.IsSettled r) : (t.enter r).claims = t.claims := by
  rcases h.enter_eq with heq | heq
  · rw [heq]
  · rw [heq, claims_record]

theorem IsSettled.imports_enter (h : t.IsSettled r) : (t.enter r).imports = t.imports := by
  rcases h.enter_eq with heq | heq
  · rw [heq]
  · rw [heq, imports_record]

/-! ## References that have been met -/

/-- Whether a table has recorded a class with as many type arguments. -/
def HasMet (t : ImportTable) (r : Reference) : Prop :=
  r.importKey? ∈ t.references.map (·.importKey?)

instance (t : ImportTable) (r : Reference) : Decidable (t.HasMet r) :=
  inferInstanceAs (Decidable (_ ∈ _))

/-- A table has met a reference if it cannot tell it from one that it holds. -/
theorem hasMet_iff (h : r.isWildcard = false) :
    t.HasMet r ↔ t.references.any (r.indistinct ·) = true := by
  rw [HasMet, List.mem_map, List.any_eq_true]
  refine exists_congr fun s => and_congr_right fun _ => ?_
  rw [← Reference.importKey?_eq_iff h]
  exact eq_comm

theorem record_of_hasMet (h : t.HasMet r) : t.record r = t := if_pos h

theorem references_record (h : ¬ t.HasMet r) : (t.record r).references = t.references ++ [r] :=
  congrArg references (if_neg h)

theorem hasMet_record (t : ImportTable) (r : Reference) : (t.record r).HasMet r := by
  unfold record HasMet
  split
  · next h => exact h
  · simp

/-- Claiming a name notes no reference. -/
theorem references_claim (t : ImportTable) (b : Binding) :
    (t.claim b).references = t.references := by
  unfold claim
  split <;> rfl

/-- Entering a class notes it, whether its simple name is claimed or not. -/
theorem references_enter (h : r.isWildcard = false) :
    (t.enter r).references = (t.record r).references := by
  unfold enter
  rw [if_neg (by simp [h])]
  split
  · rfl
  · exact references_claim _ _

/-- A class has been met once it is entered. -/
theorem hasMet_enter (t : ImportTable) (h : r.isWildcard = false) : (t.enter r).HasMet r := by
  rw [HasMet, references_enter h]
  exact hasMet_record t r

/-- A reference that has been entered leaves nothing to enter. -/
theorem enter_enter (t : ImportTable) (r : Reference) : (t.enter r).enter r = t.enter r := by
  cases h : r.isWildcard with
  | true => simp [enter, h]
  | false =>
    rcases (isSettled_enter t r).enter_eq with heq | heq
    · exact heq
    · rw [heq, record_of_hasMet (hasMet_enter t h)]

/-! ## The references of a run -/

/-- The references that calls register, in order. -/
def registered (calls : List ImportCall) : List Reference :=
  calls.filterMap fun
    | .reserve _ _ => none
    | .register r => some r

/-- The known classes among them. -/
def met (calls : List ImportCall) : List Reference :=
  (registered calls).filter (!·.isWildcard)

/-- A run adds to the references of a table what it registers, without repetitions. -/
theorem references_run_eq_loop (t : ImportTable) (calls : List ImportCall) :
    (t.run calls).references
      = List.eraseDupsBy.loop Reference.indistinct (met calls) t.references.reverse := by
  induction calls generalizing t with
  | nil => simp [met, registered, List.eraseDupsBy.loop]
  | cons call calls ih =>
    rw [run_cons, ih]
    cases call with
    | reserve package name =>
      rw [step, reserve, references_claim]
      rfl
    | register r =>
      rw [step, register]
      cases h : r.isWildcard with
      | true => simp [enter, h, met, registered]
      | false =>
        have hmet : met (.register r :: calls) = r :: met calls := by simp [met, registered, h]
        rw [hmet, List.eraseDupsBy.loop, references_enter h, List.any_reverse]
        by_cases hr : t.HasMet r
        · rw [record_of_hasMet hr, (hasMet_iff h).1 hr]
        · have hany : t.references.any (r.indistinct ·) = false := by
            rw [← Bool.not_eq_true, ← hasMet_iff h]
            exact hr
          rw [references_record hr, hany, List.reverse_append]
          rfl

/-- Registration is stable: once a class has been registered, every later call for it, imported in
the same way, returns the same name and claims and imports nothing, and a call that repeats the one
before it changes nothing at all. The references of a table are the known classes that were
registered, each at its first registration; texts alone tell whether it is the first. -/
theorem register_again (package : String) :
    (∀ before between (r s : Reference), r.SameImport s →
      let first := (empty package).run before
      let later := (empty package).run (before ++ .register r :: between)
      (later.register s).1 = (first.register r).1 ∧
        (later.register s).2.claims = later.claims ∧
        (later.register s).2.imports = later.imports) ∧
    (∀ calls r,
      let once := ((empty package).run calls).register r
      once.2.register r = once) ∧
    (∀ calls,
      ((empty package).run calls).references = (met calls).eraseDupsBy Reference.indistinct) ∧
    ∀ r s : Reference, r.indistinct s = true ↔ r.packageName = s.packageName ∧
      r.simpleName = s.simpleName ∧ r.arguments.length = s.arguments.length := by
  refine ⟨fun before between r s hrs => ?_, fun calls r => ?_,
    fun calls => references_run_eq_loop (empty package) calls, fun r s => ?_⟩
  · intro first later
    have hlater : later = (first.enter r).run between := run_append _ before _
    have hr : (first.enter r).IsSettled r := isSettled_enter first r
    have hs : later.IsSettled s := hlater ▸ (hr.run between).congr hrs
    refine ⟨?_, hs.claims_enter, hs.imports_enter⟩
    calc (later.enter s).nameOf s
        = later.nameOf s := hs.nameOf_run [.register s]
      _ = later.nameOf r := (nameOf_congr hrs).symm
      _ = (first.enter r).nameOf r := by rw [hlater, hr.nameOf_run between]
  · intro once
    have honce : once = ((((empty package).run calls).enter r).nameOf r,
      ((empty package).run calls).enter r) := rfl
    rw [honce, register, enter_enter]
  · rw [Reference.indistinct_iff, Reference.className?_eq_iff_simpleName, and_assoc]

/-- The file declares a class `List`, so `java.util.List` is written in full, without type arguments
and later with one. -/
theorem register_again_list :
    let list (arguments : List Reference) : Reference :=
      .compiled (.javaUtil { text := "List" }) arguments [] false
    let string := Reference.wellKnown .string
    let before : List ImportCall := [.reserve "com.example" "List"]
    let t := (empty "com.example").run (before ++ .register (list []) :: [.register string])
    (list []).SameImport (list [string]) ∧ (t.register (list [string])).1 = "java.util.List" ∧
      (t.register (list [string])).2.claims = t.claims ∧
      (t.register (list [string])).2.imports = t.imports := by
  intro list string before t
  have hsame : (list []).SameImport (list [string]) := ⟨rfl, rfl, rfl, rfl⟩
  obtain ⟨hstable, -⟩ := register_again "com.example"
  obtain ⟨hname, hclaims, himports⟩ := hstable before [.register string] _ _ hsame
  exact ⟨hsame, hname.trans (by decide), hclaims, himports⟩

end ImportTable

end JavaSyntax
