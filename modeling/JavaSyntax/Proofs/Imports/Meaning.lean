import JavaSyntax.Proofs.Imports.Run
import JavaSyntax.Reference.WellKnown

/-!
# What written names mean

A name in a source text is read by its first segment: where that is a simple name with a meaning
in the file, the meaning stands in its place, and otherwise the name is a full name already. Read
against the table of the finished file, every name that was written along the way leads back to
its class. The exception is a class whose package is obscured, because the first segment of the
package is itself a simple name with a meaning; its full name cannot be read back.
-/

set_option autoImplicit false

namespace JavaSyntax

/-! ## Segments of a dotted name -/

/-- The first segment of a dotted name. -/
def leading (name : String) : String := String.ofList (name.toList.takeWhile (· != '.'))

/-- What follows the first segment of a dotted name, from the dot on. -/
def trailing (name : String) : String := String.ofList (name.toList.dropWhile (· != '.'))

/-- Further segments of a dotted name, each behind its dot. -/
def dottedSuffix (parts : List Identifier) : String :=
  String.join (parts.map fun part => "." ++ part.text)

theorem dotted_cons (part : Identifier) (parts : List Identifier) :
    dotted (part :: parts) = part.text ++ dottedSuffix parts := by
  induction parts generalizing part with
  | nil => simp [dotted_singleton, dottedSuffix]
  | cons second parts ih =>
    rw [dotted_cons_cons, ih second]
    simp [dottedSuffix, String.append_assoc]

/-- Joining more parts to a name that has some adds their segments behind it. -/
theorem dotted_append_suffix {parts : List Identifier} (h : parts ≠ []) (others : List Identifier) :
    dotted (parts ++ others) = dotted parts ++ dottedSuffix others := by
  obtain ⟨part, parts, rfl⟩ := List.exists_cons_of_ne_nil h
  rw [List.cons_append, dotted_cons, dotted_cons, String.append_assoc]
  simp [dottedSuffix]

/-- The further segments are empty or begin with a dot. -/
theorem takeWhile_dottedSuffix (parts : List Identifier) :
    (dottedSuffix parts).toList.takeWhile (· != '.') = [] := by
  cases parts with
  | nil => rfl
  | cons part parts => simp [dottedSuffix]

theorem takeWhile_text (part : Identifier) (rest : List Char) :
    (part.text.toList ++ rest).takeWhile (· != '.')
      = part.text.toList ++ rest.takeWhile (· != '.') := by
  apply List.takeWhile_append_of_pos
  intro c hc
  have : c ≠ '.' := fun hd => part.dot_not_mem (hd ▸ hc)
  simpa using this

theorem leading_dotted (part : Identifier) (parts : List Identifier) :
    leading (dotted (part :: parts)) = part.text := by
  rw [leading, dotted_cons, String.toList_append, takeWhile_text, takeWhile_dottedSuffix]
  simp

theorem trailing_dotted (part : Identifier) (parts : List Identifier) :
    trailing (dotted (part :: parts)) = dottedSuffix parts := by
  have h := List.takeWhile_append_dropWhile (p := (· != '.'))
    (l := (part.text ++ dottedSuffix parts).toList)
  rw [String.toList_append, takeWhile_text, takeWhile_dottedSuffix, List.append_nil] at h
  rw [trailing, dotted_cons, String.toList_append, List.append_cancel_left h]
  simp

/-! ## Names of a class -/

/-- The name inside the package begins with the outermost class, and so does what follows the
package in the full name. -/
theorem ClassName.exists_simpleName_eq (c : ClassName) :
    ∃ rest, c.simpleName = dotted (c.topLevel :: rest) ∧
      c.fullName = qualify c.packageName c.topLevel.text ++ dottedSuffix rest := by
  obtain ⟨rest, hr⟩ := c.exists_chain_eq
  refine ⟨rest, by rw [ClassName.simpleName, hr], ?_⟩
  calc c.fullName
      = dotted (c.package ++ (c.topLevel :: rest)) := by
        rw [ClassName.fullName_eq_dotted, ClassName.parts, hr]
    _ = dotted ((c.package ++ [c.topLevel]) ++ rest) := by simp
    _ = dotted (c.package ++ [c.topLevel]) ++ dottedSuffix rest :=
        dotted_append_suffix (by simp) rest
    _ = qualify c.packageName c.topLevel.text ++ dottedSuffix rest := by
        rw [ClassName.packageName, qualify_dotted]

namespace Reference

/-- The short name of a class begins with the simple name that it needs, and putting the meaning
of that name in its place gives the full name. -/
theorem exists_shortName_eq {r : Reference} (h : r.isWildcard = false) :
    ∃ part rest, r.binding.name = part.text ∧ r.shortName = dotted (part :: rest) ∧
      r.fullName = r.binding.meaning ++ dottedSuffix rest := by
  obtain ⟨c, hc⟩ := exists_className h
  by_cases hs : r.isStaticImport = true
  · refine ⟨c.name, [], ?_, ?_, ?_⟩
    · simp [binding, hs, name, hc]
    · simp [shortName, hs, name, hc, dotted_singleton]
    · simp [binding, hs, dottedSuffix]
  · obtain ⟨rest, hsimple, hfull⟩ := c.exists_simpleName_eq
    refine ⟨c.topLevel, rest, ?_, ?_, ?_⟩
    · simp [binding, hs, topLevelName, hc]
    · simp [shortName, hs, simpleName, hc, hsimple]
    · simp [binding, hs, fullName, packageName, topLevelName, hc, hfull]

/-- The full name of a class in a package begins with the first segment of the package. -/
theorem exists_fullName_eq {r : Reference} (h : r.packageName ≠ "") :
    ∃ part rest, leading r.packageName = part.text ∧ r.fullName = dotted (part :: rest) := by
  cases hc : r.className? with
  | none => simp [packageName, hc] at h
  | some c =>
    have hp : r.packageName = dotted c.package := by simp [packageName, hc, ClassName.packageName]
    have hf : r.fullName = dotted c.parts := by simp [fullName, hc, ClassName.fullName_eq_dotted]
    obtain ⟨part, others, hpackage⟩ : ∃ part others, c.package = part :: others := by
      apply List.exists_cons_of_ne_nil
      intro hnil
      exact h (by rw [hp, hnil]; rfl)
    refine ⟨part, others ++ (c.enclosing ++ [c.name]), ?_, ?_⟩
    · rw [hp, hpackage, leading_dotted]
    · rw [hf, ClassName.parts, hpackage, List.cons_append]

end Reference

/-! ## Reading a name -/

/-- A class that shares its simple name with `ClassName.grpcStatus`. -/
def ClassName.rpcStatus : ClassName := google { text := "rpc" } { text := "Status" }

/-- A class that shares its simple name with `ClassName.rpcStatus`. -/
def ClassName.grpcStatus : ClassName :=
  { package := [{ text := "io" }, { text := "grpc" }], enclosing := []
    name := { text := "Status" } }

namespace ImportTable

/-- The full name that a written name stands for. -/
def expand (t : ImportTable) (name : String) : String :=
  match t.meaning? (leading name) with
  | some meaning => meaning ++ trailing name
  | none => name

/-- Whether the full name of a class can be read as one: the class has a package, and the first
segment of the package is not a simple name with a meaning of its own. -/
def Unobscured (t : ImportTable) (r : Reference) : Prop :=
  r.isWildcard = false ∧ r.packageName ≠ "" ∧ t.meaning? (leading r.packageName) = none

instance (t : ImportTable) (r : Reference) : Decidable (t.Unobscured r) :=
  inferInstanceAs (Decidable (_ ∧ _ ∧ _))

/-- A short name leads to its class wherever the simple name has the meaning it needs. -/
theorem expand_shortName {t : ImportTable} {r : Reference} (h : r.isWildcard = false)
    (hm : t.meaning? r.binding.name = some r.binding.meaning) :
    t.expand r.shortName = r.fullName := by
  obtain ⟨part, rest, hname, hshort, hfull⟩ := Reference.exists_shortName_eq h
  rw [hname] at hm
  rw [expand, hshort, leading_dotted, hm, trailing_dotted, hfull]

/-- A full name is left as it is where its package is not obscured. -/
theorem expand_fullName {t : ImportTable} {r : Reference} (h : t.Unobscured r) :
    t.expand r.fullName = r.fullName := by
  obtain ⟨-, hpackage, hnone⟩ := h
  obtain ⟨part, rest, hleading, hfull⟩ := Reference.exists_fullName_eq hpackage
  rw [hleading] at hnone
  rw [expand, hfull, leading_dotted, hnone]

/-- The name that a call returned leads to the class after any further calls. -/
theorem expand_register (t : ImportTable) {r : Reference} {later : List ImportCall}
    (h : ((t.register r).2.run later).Unobscured r) :
    ((t.register r).2.run later).expand (t.register r).1 = r.fullName := by
  by_cases hm : (t.register r).2.meaning? r.binding.name = some r.binding.meaning
  · have hname : (t.register r).1 = r.shortName := if_pos hm
    rw [hname]
    exact expand_shortName h.1 (meaning?_run_of_some hm later)
  · have hname : (t.register r).1 = r.fullName := if_neg hm
    rw [hname]
    exact expand_fullName h

/-- A class that is not obscured in the end never was. -/
theorem Unobscured.of_run {t : ImportTable} {r : Reference} {later : List ImportCall}
    (h : (t.run later).Unobscured r) : t.Unobscured r :=
  ⟨h.1, h.2.1, meaning?_eq_none_of_run h.2.2⟩

/-- A name written in a run leads to its class after the run and any further calls. -/
theorem expand_of_mem_written {t : ImportTable} {calls : List ImportCall} {r : Reference}
    {n : String} (hn : (r, n) ∈ t.written calls) (h : (t.run calls).Unobscured r) :
    (t.run calls).expand n = r.fullName := by
  obtain ⟨before, after, rfl, rfl⟩ := mem_written_iff.1 hn
  have hrun : t.run (before ++ .register r :: after)
      = ((t.run before).register r).2.run after := by
    rw [run_append, run_cons]
    rfl
  rw [hrun] at h ⊢
  exact expand_register _ h

/-- Written names are settled at once and stay sound over whole runs. Against the table of the
finished file every name leads back to its class, so names of different classes differ; and what
a name means after a part of the run is what it means at the end. -/
theorem expand_written (package : String) (calls : List ImportCall) :
    (∀ r n, (r, n) ∈ (empty package).written calls →
      ((empty package).run calls).Unobscured r →
        ((empty package).run calls).expand n = r.fullName) ∧
    (∀ r n s m, (r, n) ∈ (empty package).written calls → (s, m) ∈ (empty package).written calls →
      ((empty package).run calls).Unobscured r → ((empty package).run calls).Unobscured s →
        r.fullName ≠ s.fullName → n ≠ m) ∧
    (∀ earlier later, calls = earlier ++ later →
      ∀ r n, (r, n) ∈ (empty package).written earlier →
        ((empty package).run calls).Unobscured r →
          ((empty package).run earlier).expand n = ((empty package).run calls).expand n) := by
  refine ⟨fun r n hn h => expand_of_mem_written hn h, ?_, ?_⟩
  · intro r n s m hn hm hr hs hne hnm
    apply hne
    rw [← expand_of_mem_written hn hr, ← expand_of_mem_written hm hs, hnm]
  · rintro earlier later rfl r n hn h
    have hall : (r, n) ∈ (empty package).written (earlier ++ later) := by
      rw [written_append]
      exact List.mem_append_left _ hn
    rw [expand_of_mem_written hall h]
    rw [run_append] at h
    exact expand_of_mem_written hn h.of_run

/-- Two classes with one simple name: the second is written in full, whatever comes later. -/
theorem expand_written_collision :
    let rpc := Reference.wellKnown ClassName.rpcStatus
    let grpc := Reference.wellKnown ClassName.grpcStatus
    let calls : List ImportCall := [.register rpc, .reserve "com.example" "Echo", .register grpc]
    let t := (empty "com.example").run calls
    (t.expand "Status" = "com.google.rpc.Status" ∧ t.expand "io.grpc.Status" = "io.grpc.Status") ∧
      "Status" ≠ "io.grpc.Status" ∧
      ((empty "com.example").run [.register rpc]).expand "Status" = t.expand "Status" := by
  intro rpc grpc calls t
  have hrpc : t.Unobscured rpc := by decide
  have hgrpc : t.Unobscured grpc := by decide
  have hmem : (rpc, "Status") ∈ (empty "com.example").written calls := List.mem_cons_self
  have hmem' : (grpc, "io.grpc.Status") ∈ (empty "com.example").written calls :=
    List.mem_cons_of_mem _ List.mem_cons_self
  obtain ⟨hread, hdistinct, hstable⟩ := expand_written "com.example" calls
  exact ⟨⟨hread rpc _ hmem hrpc, hread grpc _ hmem' hgrpc⟩,
    hdistinct rpc _ grpc _ hmem hmem' hrpc hgrpc (by decide),
    hstable [.register rpc] _ rfl rpc _ List.mem_cons_self hrpc⟩

end ImportTable

end JavaSyntax
