import JavaSyntax.Proofs.Types.Equality
import JavaSyntax.Reference.Draft
import Mathlib.Data.List.TakeWhile

/-!
# Reading class names

The segments of a class name are identifiers, and the first that begins with a capital letter is
the outermost class; a text without such a segment names no class. So reading a text and writing
the class that was read undo each other, and different texts lead to different classes.
-/

set_option autoImplicit false

namespace JavaSyntax

/-! ## Dotted names -/

namespace Identifier

theorem ofDotted?_eq_some_iff_dotted {name : String} {parts : List Identifier} :
    ofDotted? name = some parts ↔ parts ≠ [] ∧ dotted parts = name := by
  constructor
  · intro h
    refine ⟨?_, dotted_of_ofDotted? h⟩
    rintro rfl
    have hsegments := ofDotted?_eq_some_iff.1 h
    exact Text.cut_ne_nil '.' name.toList (List.map_eq_nil_iff.1 hsegments)
  · rintro ⟨hne, rfl⟩
    exact ofDotted?_eq_some_iff.2 (segments_dotted hne)

/-- A dotted name spells identifiers exactly if each of its segments is valid. -/
theorem exists_ofDotted?_eq_some_iff {name : String} :
    (∃ parts, ofDotted? name = some parts) ↔
      ∀ segment ∈ Text.segments '.' name, isValid segment = true := by
  simp only [ofDotted?_eq_some_iff, exists_eq_map_iff, isValid_iff]

/-- An identifier is a single segment. -/
theorem segments_text (identifier : Identifier) :
    Text.segments '.' identifier.text = [identifier.text] := by
  have hsegments := segments_dotted (List.cons_ne_nil identifier [])
  rwa [dotted_singleton] at hsegments

end Identifier

/-- Whether a text begins with an ASCII capital letter. -/
def Text.isCapitalized (text : String) : Bool := text.toList.head?.any Char.isUpper

theorem Identifier.isCapitalized_eq (identifier : Identifier) :
    identifier.isCapitalized = Text.isCapitalized identifier.text := by
  rw [isCapitalized, Text.isCapitalized]
  cases identifier.text.toList <;> rfl

/-! ## Where the classes start -/

namespace ClassName

/-- Whether capital letters show where the classes start: no segment of the package begins with
one, and the outermost class does. -/
structure IsConventional (c : ClassName) : Prop where
  package : ∀ part ∈ c.package, part.isCapitalized = false
  topLevel : c.topLevel.isCapitalized = true

/-- Segments lead to the one class that has them as its parts and starts at a capital letter. -/
theorem ofSegments?_eq_some_iff {segments : List Identifier} {c : ClassName} :
    ofSegments? segments = some c ↔ c.parts = segments ∧ c.IsConventional := by
  obtain ⟨rest, hchain⟩ := c.exists_chain_eq
  constructor
  · intro h
    refine ⟨parts_of_ofSegments? h, ?_⟩
    obtain ⟨name, hname, rfl⟩ := Option.map_eq_some_iff.1 h
    obtain ⟨init, hinit⟩ := List.getLast?_eq_some_iff.1 hname
    have henclosing : (segments.dropWhile (!·.isCapitalized)).dropLast = init := by
      rw [hinit, List.dropLast_concat]
    rw [henclosing] at hchain ⊢
    have hfirst := List.head?_dropWhile_not (!·.isCapitalized) segments
    rw [hinit, hchain] at hfirst
    constructor
    case package =>
      intro part hpart
      simpa using List.mem_takeWhile_imp hpart
    case topLevel => simpa using hfirst
  · rintro ⟨rfl, hpackage, htopLevel⟩
    have hbefore : ∀ part ∈ c.package, (!part.isCapitalized) = true := by simpa using hpackage
    have hstop : (!c.topLevel.isCapitalized) = false := by simpa using htopLevel
    have htake : c.parts.takeWhile (!·.isCapitalized) = c.package := by
      rw [parts, List.takeWhile_append_of_pos hbefore, hchain]
      simp [hstop]
    have hdrop : c.parts.dropWhile (!·.isCapitalized) = c.enclosing ++ [c.name] := by
      rw [parts, List.dropWhile_append_of_pos hbefore, hchain]
      simp [hstop]
    rw [ofSegments?, htake, hdrop]
    simp

/-- Segments lead to a class if one of them begins with a capital letter. -/
theorem exists_ofSegments?_eq_some_iff {segments : List Identifier} :
    (∃ c, ofSegments? segments = some c) ↔ ∃ part ∈ segments, part.isCapitalized = true := by
  rw [← Option.isSome_iff_exists, ofSegments?, Option.isSome_map, List.getLast?_isSome, ne_eq,
    List.dropWhile_eq_nil_iff]
  simp

/-- Reading is the inverse of writing in full, for the classes that start at a capital letter. -/
theorem ofString?_eq_some_iff {text : String} {c : ClassName} :
    ofString? text = some c ↔ c.fullName = text ∧ c.IsConventional := by
  simp only [ofString?, Option.bind_eq_some_iff, ofSegments?_eq_some_iff,
    Identifier.ofDotted?_eq_some_iff_dotted, fullName_eq_dotted]
  constructor
  · rintro ⟨_, ⟨-, htext⟩, rfl, hconventional⟩
    exact ⟨htext, hconventional⟩
  · rintro ⟨htext, hconventional⟩
    exact ⟨c.parts, ⟨c.parts_ne_nil, htext⟩, rfl, hconventional⟩

theorem exists_ofString?_eq_some_iff {text : String} :
    (∃ c, ofString? text = some c) ↔
      (∀ segment ∈ Text.segments '.' text, Identifier.isValid segment = true) ∧
        ∃ segment ∈ Text.segments '.' text, Text.isCapitalized segment = true := by
  have hcapitalized {parts : List Identifier} (hparts : Identifier.ofDotted? text = some parts) :
      (∃ c, ofSegments? parts = some c) ↔
        ∃ segment ∈ Text.segments '.' text, Text.isCapitalized segment = true := by
    rw [exists_ofSegments?_eq_some_iff, Identifier.ofDotted?_eq_some_iff.1 hparts]
    simp [Identifier.isCapitalized_eq]
  simp only [ofString?, Option.bind_eq_some_iff]
  rw [← Identifier.exists_ofDotted?_eq_some_iff]
  constructor
  · rintro ⟨c, parts, hparts, hc⟩
    exact ⟨⟨parts, hparts⟩, (hcapitalized hparts).1 ⟨c, hc⟩⟩
  · rintro ⟨⟨parts, hparts⟩, hsome⟩
    obtain ⟨c, hc⟩ := (hcapitalized hparts).2 hsome
    exact ⟨c, parts, hparts, hc⟩

/-- No segment of a package is capitalized, the empty text of the package without a name included. -/
theorem IsConventional.segments_packageName {c : ClassName} (h : c.IsConventional) :
    ∀ segment ∈ Text.segments '.' c.packageName, Text.isCapitalized segment = false := by
  intro segment hsegment
  rw [packageName] at hsegment
  by_cases hempty : c.package = []
  · rw [hempty] at hsegment
    obtain rfl : segment = "" := List.mem_singleton.1 hsegment
    rfl
  · rw [segments_dotted hempty] at hsegment
    obtain ⟨part, hpart, rfl⟩ := List.mem_map.1 hsegment
    rw [← part.isCapitalized_eq, h.package part hpart]

end ClassName

/-! ## References by name -/

namespace Reference

theorem ofClass_eq_ok_iff {fullName : String} {r : Reference} :
    ofClass fullName = .ok r ↔
      ∃ c, ClassName.ofString? fullName = some c ∧
        compiled c [] (Ancestry.ofClass fullName) false = r := by
  simp only [ofClass, CompiledDraft.build_eq_ok_iff, Option.some.injEq, exists_and_left,
    exists_eq_left', Option.elim_none]

theorem fullName_of_ofClass {name : String} {r : Reference} (h : ofClass name = .ok r) :
    r.fullName = name := by
  obtain ⟨c, hc, rfl⟩ := ofClass_eq_ok_iff.1 h
  exact ClassName.fullName_of_ofString? hc

/-- Class names are read faithfully: exactly the dotted names of identifiers with a capital letter
at the beginning of one of them name a class; the full name of this class is the text that was read,
the classes start at the first capital letter, and every name in the chain of classes is a single
segment. So two texts name equal classes only if they are the same. -/
theorem ofClass_faithful :
    (∀ text, (∃ r, ofClass text = .ok r) ↔
      (∀ segment ∈ Text.segments '.' text, Identifier.isValid segment = true) ∧
        ∃ segment ∈ Text.segments '.' text, Text.isCapitalized segment = true) ∧
    (∀ text r, ofClass text = .ok r →
      r.fullName = text ∧
      (∀ segment ∈ Text.segments '.' r.packageName, Text.isCapitalized segment = false) ∧
      Text.isCapitalized r.topLevelName = true ∧
      (∀ outer ∈ r.enclosing, Text.segments '.' outer.text = [outer.text]) ∧
      Text.segments '.' r.name = [r.name]) ∧
    ∀ text other r s, ofClass text = .ok r → ofClass other = .ok s →
      ((r == s) = true ↔ text = other) := by
  refine ⟨fun text => ?_, fun text r h => ?_, fun text other r s hr hs => ?_⟩
  · rw [← ClassName.exists_ofString?_eq_some_iff]
    simp only [ofClass_eq_ok_iff]
    constructor
    · rintro ⟨-, c, hc, -⟩
      exact ⟨c, hc⟩
    · rintro ⟨c, hc⟩
      exact ⟨_, c, hc, rfl⟩
  · obtain ⟨c, hc, rfl⟩ := ofClass_eq_ok_iff.1 h
    obtain ⟨hfullName, hconventional⟩ := ClassName.ofString?_eq_some_iff.1 hc
    refine ⟨hfullName, hconventional.segments_packageName, ?_,
      fun outer _ => outer.segments_text, c.name.segments_text⟩
    exact c.topLevel.isCapitalized_eq.symm.trans hconventional.topLevel
  · constructor
    · intro heq
      rw [← fullName_of_ofClass hr, ← fullName_of_ofClass hs, fullName_eq_of_beq heq]
    · rintro rfl
      obtain rfl : r = s := Except.ok.inj (hr.symm.trans hs)
      exact r.beq_self

/-- A nested class of a package, and the same class without its package. -/
theorem ofClass_faithful_nested :
    ∃ r s, ofClass "java.util.Map.Entry" = .ok r ∧ ofClass "Map.Entry" = .ok s ∧
      r.fullName = "java.util.Map.Entry" ∧ r.packageName = "java.util" ∧
      Text.isCapitalized r.topLevelName = true ∧ (r == s) = false := by
  obtain ⟨r, hr, hpackage⟩ :
      ∃ r, ofClass "java.util.Map.Entry" = .ok r ∧ r.packageName = "java.util" := ⟨_, rfl, rfl⟩
  obtain ⟨s, hs⟩ : ∃ s, ofClass "Map.Entry" = .ok s := ⟨_, rfl⟩
  obtain ⟨-, hparts, hequal⟩ := ofClass_faithful
  obtain ⟨hfullName, -, htopLevel, -⟩ := hparts _ r hr
  have hne : ¬ (r == s) = true := fun heq => absurd ((hequal _ _ r s hr hs).1 heq) (by decide)
  exact ⟨r, s, hr, hs, hfullName, hpackage, htopLevel, by simpa using hne⟩

end Reference

end JavaSyntax
