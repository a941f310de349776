import JavaSyntax.Identifier

/-!
# Class names

The full name of a class: its package, the classes around it from the outermost inwards, and its
own name. In text the parts are joined by dots; the first segment that begins with a capital
letter is where the classes start. `fullName_of_ofString?` says that reading a class name loses
nothing.
-/

set_option autoImplicit false

namespace JavaSyntax

/-- The parts of a dotted name, joined. -/
def dotted (parts : List Identifier) : String := ".".intercalate (parts.map (·.text))

/-- A name inside a package; the empty text is the package without a name. -/
def qualify (package name : String) : String :=
  if package.isEmpty then name else package ++ "." ++ name

/-- Whether a name begins with an ASCII capital letter. -/
def Identifier.isCapitalized (identifier : Identifier) : Bool :=
  match identifier.text.toList with
  | c :: _ => c.isUpper
  | [] => false

/-- The full name of a class. -/
structure ClassName where
  package : List Identifier
  /-- The classes around this one, the outermost first. -/
  enclosing : List Identifier
  name : Identifier
  deriving DecidableEq

namespace ClassName

/-- The text of the package, empty for the package without a name. -/
def packageName (c : ClassName) : String := dotted c.package

/-- The name inside the package, such as `Map.Entry`. -/
def simpleName (c : ClassName) : String := dotted (c.enclosing ++ [c.name])

/-- The outermost class, which is the one that an import names. -/
def topLevel (c : ClassName) : Identifier := c.enclosing.headD c.name

/-- The whole name, such as `java.util.Map.Entry`. -/
def fullName (c : ClassName) : String := qualify c.packageName c.simpleName

/-- The class that the segments of a dotted name lead to: the package ends where the first
capitalized segment starts the chain of classes. -/
def ofSegments? (segments : List Identifier) : Option ClassName :=
  (segments.dropWhile (!·.isCapitalized)).getLast?.map fun name =>
    { package := segments.takeWhile (!·.isCapitalized)
      enclosing := (segments.dropWhile (!·.isCapitalized)).dropLast
      name := name }

/-- The class that a dotted name spells. -/
def ofString? (text : String) : Option ClassName :=
  (Identifier.ofDotted? text).bind ofSegments?

end ClassName

/-! ## Reading a name back -/

theorem toList_dotted (parts : List Identifier) :
    (dotted parts).toList = ['.'].intercalate (parts.map (·.text.toList)) := by
  simp [dotted, String.toList_intercalate, Function.comp_def]

theorem dotted_cons_cons (first second : Identifier) (others : List Identifier) :
    dotted (first :: second :: others) = first.text ++ "." ++ dotted (second :: others) := by
  apply String.toList_inj.1
  simp [toList_dotted, List.intercalate]

theorem dotted_singleton (part : Identifier) : dotted [part] = part.text := by
  apply String.toList_inj.1
  simp [toList_dotted, List.intercalate]

/-- Joining two groups of parts is qualifying the second by the first. -/
theorem dotted_append (parts : List Identifier) {others : List Identifier} (h : others ≠ []) :
    dotted (parts ++ others) = qualify (dotted parts) (dotted others) := by
  induction parts with
  | nil => simp [dotted, qualify]
  | cons part parts ih =>
    obtain ⟨other, others, rfl⟩ := List.exists_cons_of_ne_nil h
    cases parts with
    | nil =>
      have : ¬ part.text.isEmpty := by simpa using part.text_ne_empty
      rw [List.singleton_append, dotted_cons_cons, dotted_singleton, qualify, if_neg this]
    | cons second parts =>
      rw [List.cons_append, List.cons_append, dotted_cons_cons, ← List.cons_append, ih,
        dotted_cons_cons]
      have hne : dotted (second :: parts) ≠ "" := by
        intro he
        have := congrArg String.toList he
        cases parts with
        | nil => exact second.text_ne_empty (by simpa [dotted_singleton] using he)
        | cons third parts => simp [dotted_cons_cons] at this
      have h₁ : ¬ (dotted (second :: parts)).isEmpty := by simpa using hne
      have h₂ : ¬ (part.text ++ "." ++ dotted (second :: parts)).isEmpty := by simp
      simp only [qualify, if_neg h₁, if_neg h₂]
      simp only [String.append_assoc]

/-- Qualifying a class is adding it to the parts that qualify it. -/
theorem qualify_dotted (parts : List Identifier) (name : Identifier) :
    qualify (dotted parts) name.text = dotted (parts ++ [name]) := by
  rw [dotted_append parts (List.cons_ne_nil name []), dotted_singleton]

/-- The parts of a dotted name are the segments of its text. -/
theorem segments_dotted {parts : List Identifier} (h : parts ≠ []) :
    Text.segments '.' (dotted parts) = parts.map (·.text) := by
  obtain ⟨part, parts, rfl⟩ := List.exists_cons_of_ne_nil h
  rw [Text.segments, toList_dotted, List.map_cons, Text.cut_intercalate]
  · simp [Function.comp_def]
  · intro segment hs
    rw [← List.map_cons (f := fun i : Identifier => i.text.toList)] at hs
    obtain ⟨i, _, rfl⟩ := List.mem_map.1 hs
    exact i.dot_not_mem

theorem dotted_ne_empty {parts : List Identifier} (h : parts ≠ []) : dotted parts ≠ "" := by
  intro hempty
  have hsegments := segments_dotted h
  obtain ⟨part, parts, rfl⟩ := List.exists_cons_of_ne_nil h
  rw [hempty] at hsegments
  exact part.text_ne_empty (List.cons.inj hsegments).1.symm

/-- A name with segments has only one way to be cut into identifiers. -/
theorem dotted_injective {parts others : List Identifier} (hp : parts ≠ []) (ho : others ≠ [])
    (h : dotted parts = dotted others) : parts = others := by
  have hs := congrArg (Text.segments '.') h
  rw [segments_dotted hp, segments_dotted ho] at hs
  exact (List.map_inj_right fun _ _ => Identifier.ext).1 hs

/-- A dotted name consists of dots and the characters of identifiers. -/
theorem eq_dot_or_isPart_of_mem_dotted {parts : List Identifier} {c : Char}
    (h : c ∈ (dotted parts).toList) : c = '.' ∨ Identifier.isPart c = true := by
  induction parts with
  | nil => simp [dotted] at h
  | cons part parts ih =>
    cases parts with
    | nil => exact .inr (Identifier.isPart_of_mem (by simpa [dotted_singleton] using h))
    | cons second parts =>
      rw [dotted_cons_cons, String.toList_append, String.toList_append, List.mem_append,
        List.mem_append] at h
      rcases h with (h | h) | h
      · exact .inr (Identifier.isPart_of_mem h)
      · exact .inl (by simpa using h)
      · exact ih h

/-- A dotted name is its parts, joined. -/
theorem dotted_of_ofDotted? {name : String} {parts : List Identifier}
    (h : Identifier.ofDotted? name = some parts) : dotted parts = name := by
  have hs := Identifier.ofDotted?_eq_some_iff.1 h
  apply String.toList_inj.1
  have hc : parts.map (·.text.toList) = Text.cut '.' name.toList := by
    have := congrArg (List.map String.toList) hs
    simpa [Text.segments, Function.comp_def] using this.symm
  rw [toList_dotted, hc, Text.intercalate_cut]

namespace ClassName

/-- The chain of classes that leads to this one begins with the outermost. -/
theorem exists_chain_eq (c : ClassName) :
    ∃ rest, c.enclosing ++ [c.name] = c.topLevel :: rest := by
  rw [topLevel]
  cases c.enclosing with
  | nil => exact ⟨[], rfl⟩
  | cons first others => exact ⟨others ++ [c.name], rfl⟩

/-- All parts of the name, from the outermost package to the class. -/
def parts (c : ClassName) : List Identifier := c.package ++ (c.enclosing ++ [c.name])

theorem parts_ne_nil (c : ClassName) : c.parts ≠ [] := by simp [parts]

theorem fullName_eq_dotted (c : ClassName) : c.fullName = dotted c.parts := by
  rw [parts, dotted_append _ (by simp)]
  rfl

/-- The full name of a class, cut at the dots, gives its parts back. -/
theorem segments_fullName (c : ClassName) :
    Text.segments '.' c.fullName = c.parts.map (·.text) := by
  rw [fullName_eq_dotted, segments_dotted c.parts_ne_nil]

/-- The package and the enclosing classes qualify the name of a class in its full name. -/
theorem fullName_eq_qualify (c : ClassName) :
    c.fullName = qualify (dotted (c.package ++ c.enclosing)) c.name.text := by
  rw [qualify_dotted, fullName_eq_dotted, parts, List.append_assoc]

theorem parts_of_ofSegments? {segments : List Identifier} {c : ClassName}
    (h : ofSegments? segments = some c) : c.parts = segments := by
  obtain ⟨name, hname, rfl⟩ := Option.map_eq_some_iff.1 h
  obtain ⟨init, hi⟩ := List.getLast?_eq_some_iff.1 hname
  simp only [parts, hi, List.dropLast_concat]
  rw [← hi]
  exact List.takeWhile_append_dropWhile

/-- Reading the name of a class loses nothing. -/
theorem fullName_of_ofString? {text : String} {c : ClassName} (h : ofString? text = some c) :
    c.fullName = text := by
  obtain ⟨segments, hs, hc⟩ := Option.bind_eq_some_iff.1 h
  rw [fullName_eq_dotted, parts_of_ofSegments? hc, dotted_of_ofDotted? hs]

end ClassName

end JavaSyntax
