import JavaSyntax.Rejection
import JavaSyntax.Text.Segments

/-!
# Identifiers

A name that can be declared: an ASCII letter, an underscore or a dollar sign, then any number
of these and of ASCII digits, and none of the words that the language reserves. Identifiers
outside ASCII are not accepted. `Identifier.isValid_iff` ties the check on texts to the type.
-/

set_option autoImplicit false

namespace JavaSyntax

/-- The words that no declaration may use as its name, the three literal words included. -/
def reservedWords : List String :=
  ["abstract", "assert", "boolean", "break", "byte", "case", "catch", "char", "class", "const",
    "continue", "default", "do", "double", "else", "enum", "extends", "final", "finally", "float",
    "for", "goto", "if", "implements", "import", "instanceof", "int", "interface", "long",
    "native", "new", "package", "private", "protected", "public", "return", "short", "static",
    "strictfp", "super", "switch", "synchronized", "this", "throw", "throws", "transient", "try",
    "void", "volatile", "while", "true", "false", "null"]

namespace Identifier

/-- Whether an identifier may begin with this character. -/
def isStart (c : Char) : Bool := c.isAlpha || c == '_' || c == '$'

/-- Whether an identifier may go on with this character. -/
def isPart (c : Char) : Bool := isStart c || c.isDigit

/-- Whether a text has the form of an identifier, reserved words included. -/
def isShaped : List Char → Bool
  | [] => false
  | c :: rest => isStart c && rest.all isPart

/-- Whether a text can be used verbatim as a name. -/
def isValid (text : String) : Bool := isShaped text.toList && !reservedWords.contains text

end Identifier

/-- A name for a variable, method or class. -/
structure Identifier where
  text : String
  shaped : Identifier.isShaped text.toList = true := by decide
  unreserved : text ∉ reservedWords := by decide
  deriving DecidableEq

@[ext] theorem Identifier.ext {i j : Identifier} (h : i.text = j.text) : i = j := by
  cases i; cases j; cases h; rfl

namespace Identifier

/-- The identifier that a text spells. -/
def ofString (text : String) : Checked Identifier :=
  if text.isEmpty then reject "identifier" "name" .empty
  else if unreserved : text ∈ reservedWords then reject "identifier" "name" (.reservedWord text)
  else if shaped : isShaped text.toList = true then .ok ⟨text, shaped, unreserved⟩
  else reject "identifier" "name" (.notIdentifier text)

/-- The identifier that a text spells, if it spells one. -/
def ofString? (text : String) : Option Identifier :=
  if unreserved : text ∈ reservedWords then none
  else if shaped : isShaped text.toList = true then some ⟨text, shaped, unreserved⟩
  else none

/-- The identifiers that the segments of a dotted name spell, if each of them spells one. -/
def ofDotted? (name : String) : Option (List Identifier) :=
  (Text.segments '.' name).mapM ofString?

theorem isValid_iff {text : String} :
    isValid text = true ↔ ∃ identifier : Identifier, identifier.text = text := by
  constructor
  · intro h
    simp only [isValid, Bool.and_eq_true, Bool.not_eq_true', List.contains_eq_mem,
      decide_eq_false_iff_not] at h
    exact ⟨⟨text, h.1, h.2⟩, rfl⟩
  · rintro ⟨identifier, rfl⟩
    simp [isValid, identifier.shaped, identifier.unreserved]

theorem ofString?_eq_some_iff {text : String} {identifier : Identifier} :
    ofString? text = some identifier ↔ identifier.text = text := by
  unfold ofString?
  constructor
  · intro h
    split at h
    · simp at h
    · split at h
      · cases h; rfl
      · simp at h
  · rintro rfl
    simp [identifier.unreserved, identifier.shaped]

/-- The identifiers of a dotted name are its segments, in order. -/
theorem ofDotted?_eq_some_iff {name : String} {parts : List Identifier} :
    ofDotted? name = some parts ↔ Text.segments '.' name = parts.map (·.text) := by
  unfold ofDotted?
  generalize Text.segments '.' name = segments
  induction segments generalizing parts with
  | nil => cases parts <;> simp
  | cons segment segments ih =>
    rw [List.mapM_cons]
    cases parts with
    | nil => cases h : ofString? segment <;> simp [Option.bind_eq_some_iff]
    | cons part parts =>
      simp only [List.map_cons, List.cons.injEq, Option.bind_eq_bind, Option.bind_eq_some_iff,
        Option.pure_def, Option.some.injEq, ofString?_eq_some_iff, ih]
      constructor
      · rintro ⟨i, rfl, is, h, rfl, rfl⟩
        exact ⟨rfl, h⟩
      · rintro ⟨rfl, h⟩
        exact ⟨part, rfl, parts, h, rfl, rfl⟩

theorem text_ne_empty (identifier : Identifier) : identifier.text ≠ "" := by
  intro h
  have := identifier.shaped
  simp [h, isShaped] at this

theorem ofString_eq_ok_iff {text : String} {identifier : Identifier} :
    ofString text = .ok identifier ↔ identifier.text = text := by
  unfold ofString
  constructor
  · intro h
    split at h
    · cases h
    · split at h
      · cases h
      · split at h
        · cases h; rfl
        · cases h
  · rintro rfl
    have hne : ¬ identifier.text.isEmpty = true := by simpa using identifier.text_ne_empty
    rw [if_neg hne, dif_neg identifier.unreserved, dif_pos identifier.shaped]

/-- Every character of an identifier is one that identifiers may go on with. -/
theorem isPart_of_mem {identifier : Identifier} {c : Char} (h : c ∈ identifier.text.toList) :
    isPart c = true := by
  have hshaped := identifier.shaped
  cases hcs : identifier.text.toList with
  | nil => simp [hcs] at h
  | cons first rest =>
    rw [hcs] at h hshaped
    simp only [isShaped, Bool.and_eq_true, List.all_eq_true] at hshaped
    rcases List.mem_cons.1 h with rfl | h
    · simp [isPart, hshaped.1]
    · exact hshaped.2 c h

/-- No identifier holds a dot. -/
theorem dot_not_mem (identifier : Identifier) : '.' ∉ identifier.text.toList :=
  fun h => absurd (isPart_of_mem h) (by decide)

end Identifier

end JavaSyntax
