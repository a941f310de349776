import JavaSyntax.Proofs.Imports.Run
import JavaSyntax.Reference.WellKnown
import Mathlib.Data.List.DropRight
import Mathlib.Data.List.Nodup
import Mathlib.Data.String.Basic

/-!
# Import lines

The import lines of a run are those of its claimants that need one. A name has at most one
claimant, so the lines bind different simple names, and none of them binds a name that was
reserved first.
-/

set_option autoImplicit false

namespace JavaSyntax

/-! ## Ascending lists -/

namespace ImportTable

theorem mem_insertSorted {line other : String} {lines : List String} :
    other ∈ insertSorted line lines ↔ other = line ∨ other ∈ lines := by
  induction lines with
  | nil => simp [insertSorted]
  | cons first rest ih =>
    unfold insertSorted
    split
    · simp
    · split
      · rename_i heq
        subst heq
        simp
      · simp only [List.mem_cons, ih]
        exact or_left_comm

theorem pairwise_insertSorted {line : String} {lines : List String}
    (h : lines.Pairwise (· < ·)) : (insertSorted line lines).Pairwise (· < ·) := by
  induction lines with
  | nil => simp [insertSorted]
  | cons first rest ih =>
    obtain ⟨hfirst, hrest⟩ := List.pairwise_cons.1 h
    unfold insertSorted
    split
    · rename_i hlt
      refine List.pairwise_cons.2 ⟨?_, h⟩
      intro other hother
      rcases List.mem_cons.1 hother with rfl | hother
      · exact hlt
      · exact lt_trans hlt (hfirst other hother)
    · rename_i hnlt
      split
      · exact h
      · rename_i hne
        refine List.pairwise_cons.2 ⟨?_, ih hrest⟩
        intro other hother
        rcases mem_insertSorted.1 hother with rfl | hother
        · exact lt_of_le_of_ne (not_lt.1 hnlt) (Ne.symm hne)
        · exact hfirst other hother

/-! ## Claimants -/

theorem claimant?_eq_some {t : ImportTable} {call : ImportCall} {r : Reference}
    (h : t.claimant? call = some r) :
    call = .register r ∧ r.isWildcard = false ∧ t.meaning? r.binding.name = none := by
  cases call with
  | reserve package name => simp [claimant?] at h
  | register s =>
    simp only [claimant?, Option.ite_none_right_eq_some, Option.some.injEq] at h
    obtain ⟨hclaimed, rfl⟩ := h
    simp only [isClaimedBy, Bool.and_eq_true, Bool.not_eq_true', Option.isNone_iff_eq_none]
      at hclaimed
    exact ⟨rfl, hclaimed⟩

/-- A claim gives the name the meaning that the claimant needs. -/
theorem meaning?_step_of_claimant {t : ImportTable} {call : ImportCall} {r : Reference}
    (h : t.claimant? call = some r) :
    (t.step call).meaning? r.binding.name = some r.binding.meaning := by
  obtain ⟨rfl, hwild, hfree⟩ := claimant?_eq_some h
  rw [step, register, meaning?_enter, hwild, hfree]
  simp

theorem mem_claimants_cons {t : ImportTable} {call : ImportCall} {calls : List ImportCall}
    {r : Reference} :
    r ∈ t.claimants (call :: calls) ↔
      t.claimant? call = some r ∨ r ∈ (t.step call).claimants calls := by
  rw [claimants, List.mem_append, Option.mem_toList]

/-- A name that is claimed in a run had no meaning before the run. -/
theorem meaning?_of_mem_claimants {t : ImportTable} {calls : List ImportCall} {r : Reference}
    (h : r ∈ t.claimants calls) : r.isWildcard = false ∧ t.meaning? r.binding.name = none := by
  induction calls generalizing t with
  | nil => simp [claimants] at h
  | cons call calls ih =>
    rcases mem_claimants_cons.1 h with h | h
    · exact (claimant?_eq_some h).2
    · obtain ⟨hwild, hfree⟩ := ih h
      exact ⟨hwild, meaning?_eq_none_of_step hfree⟩

/-- No name is claimed twice in a run. -/
theorem nodup_names_claimants (t : ImportTable) (calls : List ImportCall) :
    ((t.claimants calls).map (·.binding.name)).Nodup := by
  induction calls generalizing t with
  | nil => simp [claimants]
  | cons call calls ih =>
    rw [claimants]
    cases hc : t.claimant? call with
    | none => simpa using ih (t.step call)
    | some r =>
      simp only [Option.toList_some, List.singleton_append, List.map_cons, List.nodup_cons]
      refine ⟨?_, ih (t.step call)⟩
      intro hmem
      obtain ⟨s, hs, hname⟩ := List.mem_map.1 hmem
      have hfree := (meaning?_of_mem_claimants hs).2
      rw [hname, meaning?_step_of_claimant hc] at hfree
      exact absurd hfree (by simp)

/-- The call that claims a name returns the short name of the class. -/
theorem mem_written_of_mem_claimants {t : ImportTable} {calls : List ImportCall} {r : Reference}
    (h : r ∈ t.claimants calls) : (r, r.shortName) ∈ t.written calls := by
  induction calls generalizing t with
  | nil => simp [claimants] at h
  | cons call calls ih =>
    rw [written]
    rcases mem_claimants_cons.1 h with h | h
    · have hmeaning := meaning?_step_of_claimant h
      obtain ⟨rfl, -, -⟩ := claimant?_eq_some h
      have hname : (t.register r).1 = r.shortName := if_pos hmeaning
      apply List.mem_append_left
      simp [writtenBy?, hname]
    · exact List.mem_append_right _ (ih h)

/-- A name that a run reserves before anyone claims it is claimed by no one. -/
theorem name_ne_of_reserve {t : ImportTable} {before after : List ImportCall}
    {owner name : String} (hbefore : ∀ r ∈ t.claimants before, r.binding.name ≠ name)
    {r : Reference} (h : r ∈ t.claimants (before ++ .reserve owner name :: after)) :
    r.binding.name ≠ name := by
  rw [claimants_append, List.mem_append] at h
  rcases h with h | h
  · exact hbefore r h
  · intro hname
    rcases mem_claimants_cons.1 h with h | h
    · simp [claimant?] at h
    · have hfree := (meaning?_of_mem_claimants h).2
      rw [hname, step, reserve, meaning?_claim] at hfree
      simp at hfree

/-! ## The lines of a run -/

theorem importLine?_eq_of_package {t u : ImportTable} (h : t.package = u.package) (r : Reference) :
    t.importLine? r = u.importLine? r := by
  rw [importLine?, importLine?, h]

theorem imports_record (t : ImportTable) (r : Reference) : (t.record r).imports = t.imports := by
  unfold record
  split <;> rfl

/-- Only a claimant adds a line. -/
theorem imports_step (t : ImportTable) (call : ImportCall) :
    (t.step call).imports =
      ((t.claimant? call).bind t.importLine?).elim t.imports (insertSorted · t.imports) := by
  cases call with
  | reserve package name =>
    simp only [step, reserve, claim, claimant?]
    split <;> rfl
  | register r =>
    rw [step, register, enter, claimant?, isClaimedBy]
    cases hwild : r.isWildcard with
    | true => simp
    | false =>
      cases hm : t.meaning? r.binding.name with
      | none => simp
      | some meaning => simp [imports_record]

theorem pairwise_imports_run {t : ImportTable} (h : t.imports.Pairwise (· < ·))
    (calls : List ImportCall) : (t.run calls).imports.Pairwise (· < ·) := by
  induction calls generalizing t with
  | nil => exact h
  | cons call calls ih =>
    apply ih
    rw [imports_step]
    cases (t.claimant? call).bind t.importLine? with
    | none => exact h
    | some line => exact pairwise_insertSorted h

/-- The lines of a run are those that the claimants need. -/
theorem mem_imports_run {t : ImportTable} {calls : List ImportCall} {line : String} :
    line ∈ (t.run calls).imports ↔
      line ∈ t.imports ∨ ∃ r ∈ t.claimants calls, t.importLine? r = some line := by
  induction calls generalizing t with
  | nil => simp [claimants]
  | cons call calls ih =>
    have hline : (t.step call).importLine? = t.importLine? :=
      funext (importLine?_eq_of_package (package_step t call))
    have hstep : line ∈ (t.step call).imports ↔
        line ∈ t.imports ∨ ∃ r, t.claimant? call = some r ∧ t.importLine? r = some line := by
      rw [imports_step, ← Option.bind_eq_some_iff]
      cases (t.claimant? call).bind t.importLine? with
      | none => simp
      | some added =>
        rw [Option.elim_some, mem_insertSorted, Option.some.injEq, or_comm, eq_comm (a := line)]
    rw [run_cons, ih, hstep, hline, or_assoc]
    simp only [mem_claimants_cons, or_and_right, exists_or]

end ImportTable

/-! ## The name that a line binds -/

/-- The simple name that an import line binds: the last segment of the name that it imports, which
ends right before the semicolon. -/
def boundName (line : String) : String :=
  String.ofList (line.toList.dropLast.rtakeWhile fun c => c != '.' && c != ' ')

theorem boundName_qualify (keyword package : String) (part : Identifier) :
    boundName (keyword ++ " " ++ qualify package part.text ++ ";") = part.text := by
  obtain ⟨before, last, hline, hlast⟩ : ∃ (before : List Char) (last : Char),
      (keyword ++ " " ++ qualify package part.text).toList
        = before ++ [last] ++ part.text.toList ∧ (last = '.' ∨ last = ' ') := by
    unfold qualify
    split
    · exact ⟨keyword.toList, ' ', by simp, Or.inr rfl⟩
    · exact ⟨keyword.toList ++ ' ' :: package.toList, '.', by simp, Or.inl rfl⟩
  have hinside : ∀ c ∈ part.text.toList, (c != '.' && c != ' ') = true := by
    intro c hc
    have hpart := Identifier.isPart_of_mem hc
    simp only [Bool.and_eq_true, bne_iff_ne, ne_eq]
    constructor <;> rintro rfl <;> exact absurd hpart (by decide)
  have hstop : (last != '.' && last != ' ') = false := by
    rcases hlast with rfl | rfl <;> rfl
  apply String.toList_inj.1
  rw [boundName, String.toList_append, hline, String.toList_ofList]
  simp only [show ";".toList = [';'] from rfl, List.dropLast_concat, List.rtakeWhile,
    List.reverse_append]
  rw [List.takeWhile_append_of_pos (by simpa using hinside)]
  simp [hstop]

namespace ImportTable

/-- Whether a file knows the classes of a package without an import line: those of its own
package, of `java.lang`, and of the package without a name. -/
def Knows (t : ImportTable) (packageName : String) : Prop :=
  packageName = "" ∨ packageName = "java.lang" ∨ packageName = t.package

theorem importLine?_eq_some_iff {t : ImportTable} {r : Reference} {line : String} :
    t.importLine? r = some line ↔
      (r.isStaticImport = false ∧ ¬ t.Knows r.packageName ∧
        line = "import " ++ qualify r.packageName r.topLevelName ++ ";") ∨
      (r.isStaticImport = true ∧ line = "import static " ++ r.fullName ++ ";") := by
  unfold importLine? Knows
  cases hs : r.isStaticImport with
  | true =>
    simp only [Reference.binding, hs, if_true, Option.some.injEq, reduceCtorEq, false_and, true_and,
      false_or]
    exact eq_comm
  | false =>
    simp only [Reference.binding, hs, Bool.false_eq_true, if_false, Option.ite_none_left_eq_some,
      Option.some.injEq, false_and, true_and, or_false, Bool.or_eq_true, beq_iff_eq, or_assoc]
    exact and_congr_right fun _ => eq_comm

theorem boundName_of_importLine? {t : ImportTable} {r : Reference} {line : String}
    (hwild : r.isWildcard = false) (h : t.importLine? r = some line) :
    boundName line = r.binding.name := by
  obtain ⟨c, hc⟩ := Reference.exists_className hwild
  rcases importLine?_eq_some_iff.1 h with ⟨hs, -, rfl⟩ | ⟨hs, rfl⟩
  · have hname : r.binding.name = c.topLevel.text := by
      simp [Reference.binding, hs, Reference.topLevelName, hc]
    rw [hname, ← boundName_qualify "import" c.packageName c.topLevel]
    simp [Reference.packageName, Reference.topLevelName, hc]
  · have hname : r.binding.name = c.name.text := by
      simp [Reference.binding, hs, Reference.name, hc]
    rw [hname, ← boundName_qualify "import static" (dotted (c.package ++ c.enclosing)) c.name,
      ← c.fullName_eq_qualify]
    simp [Reference.fullName, hc]

/-- The line of a run that binds a name belongs to the claimant of that name. -/
theorem boundName_injOn_imports_run {t : ImportTable} (h : t.imports = []) (calls : List ImportCall)
    {line other : String} (hline : line ∈ (t.run calls).imports)
    (hother : other ∈ (t.run calls).imports) (heq : boundName line = boundName other) :
    line = other := by
  rw [mem_imports_run, h] at hline hother
  obtain ⟨r, hr, hlineOf⟩ := hline.resolve_left (by simp)
  obtain ⟨s, hs, hotherOf⟩ := hother.resolve_left (by simp)
  rw [boundName_of_importLine? (meaning?_of_mem_claimants hr).1 hlineOf,
    boundName_of_importLine? (meaning?_of_mem_claimants hs).1 hotherOf] at heq
  have hrs : r = s := List.inj_on_of_nodup_map (nodup_names_claimants t calls) hr hs heq
  subst hrs
  exact Option.some.inj (hlineOf.symm.trans hotherOf)

/-- A class that the file knows has no line of its own. -/
theorem importLine?_ne_of_knows {t : ImportTable} {c : ClassName} (h : t.Knows c.packageName)
    {r : Reference} (hwild : r.isWildcard = false) :
    t.importLine? r ≠ some ("import " ++ qualify c.packageName c.topLevel.text ++ ";") := by
  intro hline
  obtain ⟨d, hd⟩ := Reference.exists_className hwild
  rcases importLine?_eq_some_iff.1 hline with ⟨-, hunknown, heq⟩ | ⟨-, heq⟩
  · have hname : qualify c.packageName c.topLevel.text = qualify d.packageName d.topLevel.text := by
      simpa [Reference.packageName, Reference.topLevelName, hd, String.append_assoc] using heq
    rw [ClassName.packageName, ClassName.packageName, qualify_dotted, qualify_dotted] at hname
    have hparts := dotted_injective (by simp) (by simp) hname
    have hpackage : c.package = d.package := (List.append_inj' hparts rfl).1
    apply hunknown
    simpa [Reference.packageName, hd, ClassName.packageName, ← hpackage] using h
  · have hkeyword : "import static " ++ r.fullName = "import " ++ ("static " ++ r.fullName) := by
      rw [← String.append_assoc]
      rfl
    have hname : qualify c.packageName c.topLevel.text = "static " ++ r.fullName := by
      rw [hkeyword] at heq
      exact (String.append_right_inj _).1 ((String.append_left_inj _).1 heq)
    have hblank : ' ' ∈ (qualify c.packageName c.topLevel.text).toList := by
      rw [hname]
      simp
    rw [ClassName.packageName, qualify_dotted] at hblank
    rcases eq_dot_or_isPart_of_mem_dotted hblank with hdot | hpart
    · exact absurd hdot (by decide)
    · exact absurd hpart (by decide)

/-- The import lines of a file are exact: ascending, each binding a simple name of its own that
was not reserved first, none for a class that the file knows anyway, and each the line of a
reference whose own call returned it unqualified. No claimant is left without the line that it
needs. -/
theorem imports_run_exact (package : String) (calls : List ImportCall) :
    ((empty package).run calls).imports.Pairwise (· < ·) ∧
    ((empty package).run calls).imports.Pairwise (fun a b => boundName a ≠ boundName b) ∧
    (∀ before owner name after, calls = before ++ .reserve owner name :: after →
      (∀ r ∈ (empty package).claimants before, r.binding.name ≠ name) →
        ∀ line ∈ ((empty package).run calls).imports, boundName line ≠ name) ∧
    (∀ c : ClassName, (empty package).Knows c.packageName →
      "import " ++ qualify c.packageName c.topLevel.text ++ ";" ∉
        ((empty package).run calls).imports) ∧
    (∀ line ∈ ((empty package).run calls).imports, ∃ r, r.isWildcard = false ∧
      ((r.isStaticImport = false ∧ ¬ (empty package).Knows r.packageName ∧
          line = "import " ++ qualify r.packageName r.topLevelName ++ ";" ∧
          boundName line = r.topLevelName ∧ (r, r.simpleName) ∈ (empty package).written calls) ∨
        (r.isStaticImport = true ∧ line = "import static " ++ r.fullName ++ ";" ∧
          boundName line = r.name ∧ (r, r.name) ∈ (empty package).written calls))) ∧
    (∀ r ∈ (empty package).claimants calls, ∀ line, (empty package).importLine? r = some line →
      line ∈ ((empty package).run calls).imports) := by
  have horigin : ∀ line ∈ ((empty package).run calls).imports,
      ∃ r ∈ (empty package).claimants calls, (empty package).importLine? r = some line := by
    intro line hline
    exact (mem_imports_run.1 hline).resolve_left (by simp [empty])
  have hsorted : ((empty package).run calls).imports.Pairwise (· < ·) :=
    pairwise_imports_run List.Pairwise.nil calls
  refine ⟨hsorted, ?_, ?_, ?_, ?_, fun r hr line hline => mem_imports_run.2 (.inr ⟨r, hr, hline⟩)⟩
  · refine hsorted.imp_of_mem ?_
    intro line other hline hother hlt heq
    exact ne_of_lt hlt (boundName_injOn_imports_run rfl calls hline hother heq)
  · rintro before owner name after rfl hbefore line hline
    obtain ⟨r, hr, hlineOf⟩ := horigin line hline
    rw [boundName_of_importLine? (meaning?_of_mem_claimants hr).1 hlineOf]
    exact name_ne_of_reserve hbefore hr
  · intro c hknows hline
    obtain ⟨r, hr, hlineOf⟩ := horigin _ hline
    exact importLine?_ne_of_knows hknows (meaning?_of_mem_claimants hr).1 hlineOf
  · intro line hline
    obtain ⟨r, hr, hlineOf⟩ := horigin line hline
    have hwild := (meaning?_of_mem_claimants hr).1
    have hbound := boundName_of_importLine? hwild hlineOf
    have hwritten := mem_written_of_mem_claimants hr
    refine ⟨r, hwild, ?_⟩
    rcases importLine?_eq_some_iff.1 hlineOf with ⟨hs, hunknown, heq⟩ | ⟨hs, heq⟩
    · refine .inl ⟨hs, hunknown, heq, ?_, ?_⟩
      · simpa [Reference.binding, hs] using hbound
      · simpa [Reference.shortName, hs] using hwritten
    · refine .inr ⟨hs, heq, ?_, ?_⟩
      · simpa [Reference.binding, hs] using hbound
      · simpa [Reference.shortName, hs] using hwritten

/-- A reserved name keeps another class from being imported; a free one is claimed and imported. -/
theorem imports_run_exact_reserved :
    let list := Reference.wellKnown ClassName.arrayList
    let bytes := Reference.wellKnown ClassName.byteString
    let calls : List ImportCall :=
      [.reserve "com.example" "ArrayList", .register list, .register bytes]
    let t := (empty "com.example").run calls
    "import com.google.protobuf.ByteString;" ∈ t.imports ∧
      boundName "import com.google.protobuf.ByteString;" ≠ "ArrayList" ∧
      "import java.lang.Object;" ∉ t.imports ∧
      (∃ r n, (r, n) ∈ (empty "com.example").written calls ∧ r.isWildcard = false) := by
  intro list bytes calls t
  obtain ⟨-, -, hreserved, hknown, horigin, hcomplete⟩ := imports_run_exact "com.example" calls
  have hclaimant : bytes ∈ (empty "com.example").claimants calls := List.mem_singleton.2 rfl
  have hline : "import com.google.protobuf.ByteString;" ∈ t.imports :=
    hcomplete bytes hclaimant _ (by decide)
  refine ⟨hline, hreserved [] _ _ _ rfl (by simp [claimants]) _ hline,
    hknown ClassName.object (.inr (.inl (by decide))), ?_⟩
  obtain ⟨r, hwild, ⟨-, -, -, -, hwritten⟩ | ⟨-, -, -, hwritten⟩⟩ := horigin _ hline
  · exact ⟨r, _, hwritten, hwild⟩
  · exact ⟨r, _, hwritten, hwild⟩

end ImportTable

end JavaSyntax
