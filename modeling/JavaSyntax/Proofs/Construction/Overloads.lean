import JavaSyntax.Proofs.Construction.Members

/-!
# Which methods cannot stand together

Two methods of a class clash if they have one name and parameters whose types agree up to type
arguments. A body without abstract methods is refused exactly if two of its methods clash, and the
rejection names the signature of the first method that clashes with one before it.
-/

set_option autoImplicit false

namespace JavaSyntax

namespace Method

theorem Clashes.symm {m m' : Method} (h : m.Clashes m') : m'.Clashes m :=
  signature_eq_iff.1 (signature_eq_iff.2 h).symm

theorem mem_signatures_iff {m : Method} {ms : List Method} :
    m.signature ∈ ms.map (·.signature) ↔ ∃ m' ∈ ms, m.Clashes m' := by
  rw [List.mem_map]
  constructor
  · rintro ⟨m', hm', h⟩
    exact ⟨m', hm', signature_eq_iff.1 h.symm⟩
  · rintro ⟨m', hm', h⟩
    exact ⟨m', hm', (signature_eq_iff.2 h).symm⟩

/-- If not all methods can be told apart, two of them at different places clash. -/
theorem not_pairwise_iff {ms : List Method} :
    (¬ ms.Pairwise fun m m' => ¬ m.Clashes m') ↔
      ∃ (i j : Nat) (m m' : Method), i ≠ j ∧ ms[i]? = some m ∧ ms[j]? = some m' ∧
        m.Clashes m' := by
  rw [List.pairwise_iff_getElem]
  constructor
  · intro h
    push Not at h
    obtain ⟨i, j, hi, hj, hlt, hclash⟩ := h
    exact ⟨i, j, _, _, Nat.ne_of_lt hlt, List.getElem?_eq_getElem hi,
      List.getElem?_eq_getElem hj, hclash⟩
  · rintro ⟨i, j, m, m', hne, hm, hm', hclash⟩ h
    obtain ⟨hi, rfl⟩ := List.getElem?_eq_some_iff.1 hm
    obtain ⟨hj, rfl⟩ := List.getElem?_eq_some_iff.1 hm'
    rcases Nat.lt_or_gt_of_ne hne with hlt | hlt
    · exact h i j hi hj hlt hclash
    · exact h j i hj hi hlt hclash.symm

end Method

namespace Members

variable {node : String} {isAbstract : Bool} {declared : List String} {ms : List Method}
  {r : Rejection}

/-- What is refused is the first method whose signature is declared before it. -/
theorem checkMethods_eq_error_iff (habstract : ∀ m ∈ ms, m.header.modifiers.isAbstract = false) :
    checkMethods node isAbstract declared ms = .error r ↔
      ∃ before m after, ms = before ++ m :: after ∧ Fresh declared (before.map (·.signature)) ∧
        (m.signature ∈ declared ∨ m.signature ∈ before.map (·.signature)) ∧
        r = ⟨node, .redeclared m.signature⟩ := by
  induction ms generalizing declared with
  | nil => simp [checkMethods]
  | cons m ms ih =>
    obtain ⟨hm, hms⟩ := List.forall_mem_cons.1 habstract
    rw [checkMethods]
    by_cases hdeclared : m.signature ∈ declared
    · rw [if_pos hdeclared]
      constructor
      · intro h
        cases h
        exact ⟨[], m, ms, rfl, fresh_nil declared, .inl hdeclared, rfl⟩
      · rintro ⟨_ | ⟨x, before⟩, m', after, heq, hfresh, -, rfl⟩
        · cases heq
          rfl
        · cases heq
          exact absurd hdeclared (fresh_cons_iff.1 hfresh).1
    · have hrequire : require (isAbstract || !m.header.modifiers.isAbstract) node "methods"
          (.abstractInConcrete m.name) = .ok () := by
        rw [require_eq_ok_iff, hm]
        simp
      rw [if_neg hdeclared, hrequire]
      refine (ih hms).trans ⟨?_, ?_⟩
      · rintro ⟨before, m', after, rfl, hfresh, hrepeats, rfl⟩
        refine ⟨m :: before, m', after, rfl, fresh_cons_iff.2 ⟨hdeclared, hfresh⟩, ?_, rfl⟩
        rw [List.mem_cons] at hrepeats
        rw [List.map_cons, List.mem_cons]
        tauto
      · rintro ⟨_ | ⟨x, before⟩, m', after, heq, hfresh, hrepeats, rfl⟩
        · cases heq
          simp [hdeclared] at hrepeats
        · cases heq
          refine ⟨before, m', after, rfl, (fresh_cons_iff.1 hfresh).2, ?_, rfl⟩
          rw [List.map_cons, List.mem_cons] at hrepeats
          rw [List.mem_cons]
          tauto

theorem check_eq_error_iff (habstract : ∀ m ∈ ms, m.header.modifiers.isAbstract = false) :
    check node isAbstract [] ms = .error r ↔
      ∃ before m after, ms = before ++ m :: after ∧
        (before.Pairwise fun m m' => ¬ m.Clashes m') ∧ (∃ m' ∈ before, m.Clashes m') ∧
        r = ⟨node, .redeclared m.signature⟩ := by
  have hcheck : check node isAbstract [] ms = checkMethods node isAbstract [] ms := rfl
  rw [hcheck, checkMethods_eq_error_iff habstract]
  simp only [Fresh, nodup_signatures_iff, Method.mem_signatures_iff, List.not_mem_nil,
    not_false_eq_true, implies_true, and_true, false_or]

theorem exists_check_eq_error_iff (habstract : ∀ m ∈ ms, m.header.modifiers.isAbstract = false) :
    (∃ r, check node isAbstract [] ms = .error r) ↔
      ¬ ms.Pairwise fun m m' => ¬ m.Clashes m' := by
  have hlawful : Lawful isAbstract [] ms ↔ ms.Pairwise fun m m' => ¬ m.Clashes m' :=
    ⟨fun h => h.signatures, fun h => ⟨by simp, by simp, h, fun _ => habstract⟩⟩
  rw [← hlawful, ← check_eq_ok_iff]
  cases check node isAbstract [] ms with
  | error r => simp
  | ok _ => simp

/-- Two methods have one signature exactly if they clash. A body of methods that are not abstract is
refused exactly if two of them at different places clash; then the first that clashes with one
before it is reported, by its signature, as declared twice. -/
theorem signature_identifies_overloads :
    (∀ m m' : Method, m.signature = m'.signature ↔
      m.name = m'.name ∧ List.Forall₂ JavaType.SameErasure m.parameterTypes m'.parameterTypes) ∧
    ∀ (node : String) (isAbstract : Bool) (ms : List Method),
      (∀ m ∈ ms, m.header.modifiers.isAbstract = false) →
      ((∃ r, check node isAbstract [] ms = .error r) ↔
        ∃ (i j : Nat) (m m' : Method), i ≠ j ∧ ms[i]? = some m ∧ ms[j]? = some m' ∧
          m.Clashes m') ∧
      ∀ r, check node isAbstract [] ms = .error r ↔
        ∃ before m after, ms = before ++ m :: after ∧
          (before.Pairwise fun m m' => ¬ m.Clashes m') ∧ (∃ m' ∈ before, m.Clashes m') ∧
          r = ⟨node, .redeclared m.signature⟩ := by
  refine ⟨fun _ _ => Method.signature_eq_iff,
    fun node isAbstract ms habstract => ⟨?_, fun r => ?_⟩⟩
  · rw [exists_check_eq_error_iff habstract, Method.not_pairwise_iff]
  · exact check_eq_error_iff habstract

/-- Type arguments do not tell two methods apart, whatever stands between them. -/
theorem signature_identifies_overloads_lists :
    let values (element : ClassName) : Declaration :=
      { identifier := { text := "values" }
        type := .ofReference
          (.compiled (.javaUtil { text := "List" }) [.wellKnown element] [] false)
        holdsValue := rfl }
    let method (identifier : Identifier) (parameters : List Declaration) : Method :=
      { header :=
          { comments := [], annotations := [], modifiers := {}, isConstructor := false
            returnType := .void, identifier := identifier, parameters := parameters
            exceptions := [] }
        body := []
        result := none }
    let strings := method { text := "foo" } [values .string]
    let empty := method { text := "foo" } []
    let numbers := method { text := "foo" } [values (.boxed .int)]
    (∀ m ∈ [strings, empty, numbers], m.header.modifiers.isAbstract = false) ∧
      strings.Clashes numbers ∧ ¬ strings.Clashes empty ∧
      check "class definition" false [] [strings, empty, numbers]
        = .error ⟨"class definition", .redeclared "foo(java.util.List)"⟩ := by
  intro values method strings empty numbers
  have habstract : ∀ m ∈ [strings, empty, numbers], m.header.modifiers.isAbstract = false := by
    simp [strings, empty, numbers, method]
  have hsignature : numbers.signature = "foo(java.util.List)" := by decide +kernel
  obtain ⟨hclashes, hcheck⟩ := signature_identifies_overloads
  have hsame : strings.Clashes numbers := (hclashes _ _).1 (by decide +kernel)
  have hother : ¬ strings.Clashes empty := fun h => absurd ((hclashes _ _).2 h) (by decide +kernel)
  refine ⟨habstract, hsame, hother, ((hcheck _ _ _ habstract).2 _).2 ?_⟩
  exact ⟨[strings, empty], numbers, [], rfl, by simpa using hother,
    ⟨strings, by simp, hsame.symm⟩, by rw [hsignature]⟩

end Members

end JavaSyntax
