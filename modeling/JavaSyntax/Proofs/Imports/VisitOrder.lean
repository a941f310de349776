import JavaSyntax.Proofs.Imports.Registration
import Mathlib.Data.List.Sort

/-!
# The order of registration

The first class to use a simple name claims it, so the order in which classes are registered
decides which of them is written in full. Where no two of them compete for a name it decides
nothing: every class is called by its short name, and the lines and keys of the table are those of
its references, whatever the order in which these come.
-/

set_option autoImplicit false

namespace JavaSyntax

namespace Reference

/-- Known classes, none of them imported statically, that do not compete for simple names:
outermost classes of one name stand in one package. -/
structure Uncontested (rs : List Reference) : Prop where
  isWildcard : ∀ r ∈ rs, r.isWildcard = false
  isStaticImport : ∀ r ∈ rs, r.isStaticImport = false
  packageName : ∀ r ∈ rs, ∀ s ∈ rs, r.topLevelName = s.topLevelName →
    r.packageName = s.packageName

theorem Uncontested.subset {rs ss : List Reference} (hss : Uncontested ss) (h : rs ⊆ ss) :
    Uncontested rs where
  isWildcard r hr := hss.isWildcard r (h hr)
  isStaticImport r hr := hss.isStaticImport r (h hr)
  packageName r hr s hs := hss.packageName r (h hr) s (h hs)

/-- References that need one simple name need it in one meaning. -/
theorem Uncontested.binding_eq {rs : List Reference} (hrs : Uncontested rs) {r s : Reference}
    (hr : r ∈ rs) (hs : s ∈ rs) (hname : r.binding.name = s.binding.name) :
    r.binding = s.binding := by
  simp only [binding, hrs.isStaticImport r hr, hrs.isStaticImport s hs, Bool.false_eq_true,
    if_false] at hname ⊢
  rw [hname, hrs.packageName r hr s hs hname]

/-- What a table tells apart of a reference, as texts: the package, the name inside it, and the
number of type arguments. -/
def key (r : Reference) : String × String × Nat :=
  (r.packageName, r.simpleName, r.arguments.length)

theorem importKey?_eq_iff_key {r s : Reference} (hr : r.isWildcard = false) :
    r.importKey? = s.importKey? ↔ r.key = s.key := by
  rw [importKey?_eq_iff hr, indistinct_iff, className?_eq_iff_simpleName, key, key]
  simp only [Prod.mk.injEq, and_assoc]

end Reference

namespace ImportTable

variable {t : ImportTable} {rs visited : List Reference} {r : Reference}

/-! ## Names -/

/-- Whether every simple name that a list of references needs either is free or has the meaning in
which it is needed. -/
def Favours (t : ImportTable) (rs : List Reference) : Prop :=
  ∀ r ∈ rs, ∀ meaning, t.meaning? r.binding.name = some meaning → meaning = r.binding.meaning

theorem favours_empty (package : String) (rs : List Reference) : (empty package).Favours rs := by
  intro r _ meaning h
  cases h

/-- A reference that is entered gets the meaning that it needs, which is what the others need too. -/
theorem Favours.enter (ht : t.Favours rs) (hrs : Reference.Uncontested rs) (hr : r ∈ rs) :
    (t.enter r).Favours rs := by
  intro s hs meaning hmeaning
  rw [meaning?_enter, hrs.isWildcard r hr] at hmeaning
  cases hold : t.meaning? s.binding.name with
  | some old =>
    rw [hold] at hmeaning
    cases hmeaning
    exact ht s hs meaning hold
  | none =>
    simp only [hold, Bool.false_eq_true, if_false, Option.none_or, Option.ite_none_right_eq_some,
      Option.some.injEq] at hmeaning
    obtain ⟨hname, rfl⟩ := hmeaning
    rw [hrs.binding_eq hr hs hname]

theorem Favours.nameOf_enter (ht : t.Favours rs) (hrs : Reference.Uncontested rs) (hr : r ∈ rs) :
    (t.enter r).nameOf r = r.simpleName := by
  have hmeaning : (t.enter r).meaning? r.binding.name = some r.binding.meaning := by
    rcases isSettled_enter t r with hwild | hsome
    · exact absurd hwild (by simp [hrs.isWildcard r hr])
    · obtain ⟨meaning, hmeaning⟩ := Option.isSome_iff_exists.1 hsome
      rw [hmeaning, ht.enter hrs hr r hr meaning hmeaning]
  rw [nameOf, if_pos hmeaning, Reference.shortName, hrs.isStaticImport r hr]
  rfl

/-- Every call returns the short name. -/
theorem Favours.written_eq (ht : t.Favours rs) (hrs : Reference.Uncontested rs)
    (hvisited : visited ⊆ rs) :
    t.written (visited.map .register) = visited.map fun r => (r, r.simpleName) := by
  induction visited generalizing t with
  | nil => rfl
  | cons r visited ih =>
    obtain ⟨hr, hvisited⟩ := List.cons_subset.1 hvisited
    have hname : t.writtenBy? (.register r) = some (r, r.simpleName) := by
      rw [writtenBy?, register, ht.nameOf_enter hrs hr]
    rw [List.map_cons, List.map_cons, written, hname]
    exact congrArg _ (ih (ht.enter hrs hr) hvisited)

/-! ## Import lines -/

/-- Every name that was free before the run is claimed by one of the references that need it. -/
theorem exists_mem_claimants (hwild : ∀ s ∈ visited, s.isWildcard = false) (hr : r ∈ visited)
    (hfree : t.meaning? r.binding.name = none) :
    ∃ s ∈ t.claimants (visited.map .register), s.binding.name = r.binding.name := by
  induction visited generalizing t with
  | nil => cases hr
  | cons first visited ih =>
    obtain ⟨hfirst, hwild⟩ := List.forall_mem_cons.1 hwild
    rw [List.map_cons]
    by_cases hname : first.binding.name = r.binding.name
    · have hclaimant : t.claimant? (.register first) = some first := by
        simp [claimant?, isClaimedBy, hfirst, hname, hfree]
      exact ⟨first, mem_claimants_cons.2 (.inl hclaimant), hname⟩
    · have hr : r ∈ visited := (List.mem_cons.1 hr).resolve_left (by rintro rfl; exact hname rfl)
      have hfree : (t.step (.register first)).meaning? r.binding.name = none := by
        rw [step, register, meaning?_enter, hfirst, hfree]
        simp [hname]
      obtain ⟨s, hs, hsr⟩ := ih hwild hr hfree
      exact ⟨s, mem_claimants_cons.2 (.inr hs), hsr⟩

/-- References that need one name in one meaning need one line. -/
theorem importLine?_eq_of_binding_eq (t : ImportTable) (hrs : Reference.Uncontested rs)
    {s : Reference} (hr : r ∈ rs) (hs : s ∈ rs) (hname : r.binding.name = s.binding.name) :
    t.importLine? r = t.importLine? s := by
  have hpackage : r.packageName = s.packageName := by
    apply hrs.packageName r hr s hs
    simpa [Reference.binding, hrs.isStaticImport r hr, hrs.isStaticImport s hs] using hname
  rw [importLine?, importLine?, hrs.isStaticImport r hr, hrs.isStaticImport s hs, hpackage,
    hrs.binding_eq hr hs hname]

/-- The lines of a table are those that its references need. -/
theorem mem_imports_iff (package : String) (hrs : Reference.Uncontested rs) {line : String} :
    line ∈ ((empty package).run (rs.map .register)).imports ↔
      ∃ r ∈ rs, (empty package).importLine? r = some line := by
  have hclaimants : ∀ s ∈ (empty package).claimants (rs.map .register), s ∈ rs := by
    intro s hs
    have hwritten := mem_written_of_mem_claimants hs
    rw [(favours_empty package rs).written_eq hrs (List.Subset.refl rs)] at hwritten
    obtain ⟨r, hr, heq⟩ := List.mem_map.1 hwritten
    obtain rfl : r = s := congrArg Prod.fst heq
    exact hr
  rw [mem_imports_run]
  constructor
  · rintro (hnil | ⟨s, hs, hline⟩)
    · cases hnil
    · exact ⟨s, hclaimants s hs, hline⟩
  · rintro ⟨r, hr, hline⟩
    have hfree : (empty package).meaning? r.binding.name = none := rfl
    obtain ⟨s, hs, hname⟩ := exists_mem_claimants hrs.isWildcard hr hfree
    refine .inr ⟨s, hs, ?_⟩
    rw [importLine?_eq_of_binding_eq _ hrs (hclaimants s hs) hr hname, hline]

/-! ## Keys -/

/-- The keys of the references that a table has met. -/
def keys (t : ImportTable) : List (String × String × Nat) := t.references.map Reference.key

theorem keys_enter (t : ImportTable) (hwild : r.isWildcard = false) :
    (t.enter r).keys = if r.key ∈ t.keys then t.keys else t.keys ++ [r.key] := by
  have hmet : t.HasMet r ↔ r.key ∈ t.keys := by
    simp only [HasMet, keys, List.mem_map, eq_comm (b := r.importKey?), eq_comm (b := r.key),
      Reference.importKey?_eq_iff_key hwild]
  rw [keys, references_enter hwild]
  by_cases h : t.HasMet r
  · rw [record_of_hasMet h, if_pos (hmet.1 h), keys]
  · rw [references_record h, if_neg (mt hmet.2 h), List.map_append]
    rfl

theorem mem_keys_run (hwild : ∀ r ∈ visited, r.isWildcard = false) {key : String × String × Nat} :
    key ∈ (t.run (visited.map .register)).keys ↔ key ∈ t.keys ∨ key ∈ visited.map (·.key) := by
  induction visited generalizing t with
  | nil => simp
  | cons r visited ih =>
    obtain ⟨hr, hwild⟩ := List.forall_mem_cons.1 hwild
    rw [List.map_cons, run_cons, ih hwild, step, register, keys_enter t hr, List.map_cons,
      List.mem_cons, ← or_assoc]
    refine or_congr_left ?_
    split
    · next hmem => exact ⟨.inl, fun h => h.elim id fun heq => heq ▸ hmem⟩
    · simp

theorem nodup_keys_run (hwild : ∀ r ∈ visited, r.isWildcard = false) (ht : t.keys.Nodup) :
    (t.run (visited.map .register)).keys.Nodup := by
  induction visited generalizing t with
  | nil => exact ht
  | cons r visited ih =>
    obtain ⟨hr, hwild⟩ := List.forall_mem_cons.1 hwild
    apply ih hwild
    rw [step, register, keys_enter t hr]
    split
    · exact ht
    · next hmem => simpa using (List.nodup_concat t.keys r.key).2 ⟨hmem, ht⟩

/-! ## All of it -/

/-- Where no two classes compete for a name, the order in which they are registered does not
matter: the import lines are the same, every class is called by its short name whenever it comes,
and the same keys are met. -/
theorem register_perm (package : String) (hrs : Reference.Uncontested rs) {ss : List Reference}
    (hperm : rs.Perm ss) :
    let t := (empty package).run (rs.map .register)
    let u := (empty package).run (ss.map .register)
    t.imports = u.imports ∧
      (empty package).written (rs.map .register) = rs.map (fun r => (r, r.simpleName)) ∧
      (empty package).written (ss.map .register) = ss.map (fun r => (r, r.simpleName)) ∧
      t.keys.Perm u.keys := by
  intro t u
  have hss : Reference.Uncontested ss := hrs.subset hperm.symm.subset
  refine ⟨?_, (favours_empty package rs).written_eq hrs (List.Subset.refl rs),
    (favours_empty package ss).written_eq hss (List.Subset.refl ss), ?_⟩
  · have hsorted (calls : List ImportCall) :
        ((empty package).run calls).imports.Pairwise (· < ·) :=
      pairwise_imports_run List.Pairwise.nil calls
    apply (hsorted _).eq_of_mem_iff (hsorted _)
    intro line
    rw [mem_imports_iff package hrs, mem_imports_iff package hss]
    exact exists_congr fun r => and_congr_left fun _ => hperm.mem_iff
  · have hempty : (empty package).keys.Nodup := List.nodup_nil
    apply (List.perm_ext_iff_of_nodup (nodup_keys_run hrs.isWildcard hempty)
      (nodup_keys_run hss.isWildcard hempty)).2
    intro key
    rw [mem_keys_run hrs.isWildcard, mem_keys_run hss.isWildcard, (hperm.map _).mem_iff]

/-- A class, one that is nested in it, and one of another package, in two orders. -/
theorem register_perm_nested :
    let map := Reference.wellKnown (.javaUtil { text := "Map" })
    let entry := Reference.wellKnown
      { (ClassName.javaUtil { text := "Entry" }) with enclosing := [{ text := "Map" }] }
    let bytes := Reference.wellKnown ClassName.byteString
    let rs := [map, entry, bytes]
    let ss := [bytes, entry, map]
    Reference.Uncontested rs ∧ rs.Perm ss ∧
      ((empty "com.example").run (rs.map .register)).imports
        = ((empty "com.example").run (ss.map .register)).imports ∧
      (entry, "Map.Entry") ∈ (empty "com.example").written (ss.map .register) := by
  intro map entry bytes rs ss
  have hrs : Reference.Uncontested rs := by constructor <;> decide
  have hperm : rs.Perm ss := rs.reverse_perm.symm
  obtain ⟨himports, -, hwritten, -⟩ := register_perm "com.example" hrs hperm
  refine ⟨hrs, hperm, himports, ?_⟩
  rw [hwritten]
  exact List.mem_cons_of_mem _ List.mem_cons_self

end ImportTable

end JavaSyntax
