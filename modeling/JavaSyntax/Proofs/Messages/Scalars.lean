import JavaSyntax.Message.Field
import JavaSyntax.Proofs.Source.Decimals
import JavaSyntax.Proofs.Types.Equality

/-!
# Stand-ins of single values

The stand-in of a single value is derived from the hash code of the name of its field. A hash code
is an `int`, so four of the six types of numbers have room for every one of them, but a `byte` or a
`short` has only for some names. For the others there is no stand-in, and the literal is what is
refused, not the kind of field.
-/

set_option autoImplicit false

namespace JavaSyntax

/-! ## Hash codes as literals -/

namespace Primitive

/-- The types of numbers that are not characters. -/
def numbers : List Primitive := [.byte, .short, .int, .long, .float, .double]

theorem mem_numbers_iff {p : Primitive} : p ∈ numbers ↔ p.isNumeric = true ∧ p ≠ .char := by
  cases p <;> decide

/-- Whether a type of numbers is wide enough for an integer, which the two narrowest may not be. -/
def IsWideEnough (p : Primitive) (n : Int) : Prop :=
  (p = .byte → -128 ≤ n ∧ n < 128) ∧ (p = .short → -32768 ≤ n ∧ n < 32768)

instance (p : Primitive) (n : Int) : Decidable (p.IsWideEnough n) :=
  inferInstanceAs (Decidable (_ ∧ _))

theorem isWord_toInt (code : Int32) : Literal.IsWord 32 code.toInt :=
  ⟨code.le_toInt, code.toInt_lt⟩

/-- A hash code is a literal of every type of numbers that is wide enough for it. -/
theorem isLiteral_toString_toInt_iff {p : Primitive} (hp : p ∈ numbers) (code : Int32) :
    p.isLiteral (toString code.toInt) = true ↔ p.IsWideEnough code.toInt := by
  have hword := isWord_toInt code
  have hwide : p ≠ .byte → p ≠ .short → p.IsWideEnough code.toInt :=
    fun hbyte hshort => ⟨fun h => absurd h hbyte, fun h => absurd h hshort⟩
  cases p with
  | byte =>
    have hbits : (Primitive.byte, 8) ∈ Literal.integralWidths := by decide
    rw [Literal.isLiteral_toString_iff hbits]
    exact ⟨fun h => ⟨fun _ => h, nofun⟩, fun h => h.1 rfl⟩
  | short =>
    have hbits : (Primitive.short, 16) ∈ Literal.integralWidths := by decide
    rw [Literal.isLiteral_toString_iff hbits]
    exact ⟨fun h => ⟨nofun, fun _ => h⟩, fun h => h.2 rfl⟩
  | int =>
    have hbits : (Primitive.int, 32) ∈ Literal.integralWidths := by decide
    rw [Literal.isLiteral_toString_iff hbits]
    exact iff_of_true hword (hwide nofun nofun)
  | long =>
    have hbits : (Primitive.long, 64) ∈ Literal.integralWidths := by decide
    rw [Literal.isLiteral_toString_iff hbits]
    exact iff_of_true (hword.mono (by decide)) (hwide nofun nofun)
  | float =>
    exact iff_of_true (Literal.isLiteral_toString_of_isWord (.inl rfl) hword) (hwide nofun nofun)
  | double =>
    exact iff_of_true (Literal.isLiteral_toString_of_isWord (.inr rfl) hword) (hwide nofun nofun)
  | char => exact absurd hp (by decide)
  | boolean => exact absurd hp (by decide)

end Primitive

/-! ## Single values -/

/-- Whether single values of a type have no stand-in: the type is neither the class of strings nor
that of byte strings, and if it is primitive, then it is that of characters. -/
structure JavaType.IsUnsupported (t : JavaType) : Prop where
  string : t.isString = false
  bytes : (t == .byteString) = false
  primitive : ∀ p, t = .ofPrimitive p → p = .char

namespace Field

/-- The text that stand-ins are derived from: the hash code of the name, in decimal notation. -/
def codeText (f : Field) : String := toString (Text.hash f.name).toInt

variable {f : Field}

theorem scalar_of_isString (h : f.type.isString = true) :
    f.scalar = .ok (.value (.string (f.name ++ f.codeText))) := by
  rw [scalar, if_pos h]
  rfl

/-- A number is the literal of the hash code, if its type has one. -/
theorem scalar_of_number {p : Primitive} (htype : f.type = .ofPrimitive p)
    (hp : p ∈ Primitive.numbers) :
    f.scalar = (fun l => .value (.literal l)) <$>
      Literal.ofString (.ofPrimitive p) f.codeText := by
  obtain ⟨hnumeric, hchar⟩ := Primitive.mem_numbers_iff.1 hp
  have hstring : f.type.isString = false := by rw [htype]; rfl
  have hnumber : (f.type.isPrimitive && f.type.isNumeric && f.type.kind != .primitive .char)
      = true := by
    have hkind : (JavaType.ofPrimitive p).kind ≠ .primitive .char := fun h =>
      hchar (Kind.primitive.inj h)
    rw [htype, Bool.and_eq_true, Bool.and_eq_true, bne_iff_ne]
    exact ⟨⟨rfl, hnumeric⟩, hkind⟩
  rw [scalar, hstring, if_neg Bool.false_ne_true, if_pos hnumber, htype]
  rfl

theorem scalar_of_boolean (h : f.type = .boolean) :
    f.scalar = .ok (.value (.literal ⟨.boolean, "true", rfl⟩)) := by
  rw [scalar, h]
  rfl

/-- The byte string without bytes is a constant of its class. -/
theorem scalar_of_byteString (h : (f.type == .byteString) = true) :
    f.scalar = .ok (.var (.use ⟨{ text := "EMPTY" }, .byteString, rfl⟩
      (.owner (.wellKnown .byteString)))) := by
  have halike := JavaType.alike_of_beq h
  have hstring : f.type.isString = false :=
    halike.isClassThat_isExactly_eq Ancestry.stringClass
  have hforms : f.type.isPrimitive = false ∧ (f.type == .boolean) = false := by
    generalize f.type = t at halike
    cases halike
    exact ⟨rfl, rfl⟩
  simp only [scalar, hstring, hforms, h]
  rfl

theorem scalar_of_isUnsupported (h : f.type.IsUnsupported) : f.scalar = f.unsupported := by
  obtain ⟨hstring, hbytes, hprimitive⟩ := h
  have hnumber : (f.type.isPrimitive && f.type.isNumeric && f.type.kind != .primitive .char)
      = false := by
    generalize f.type = t at hprimitive
    rcases t with _ | (p | _) | _
    · rfl
    · rw [hprimitive p rfl]
      rfl
    · rfl
    · rfl
  have hboolean : (f.type == .boolean) = false := by
    refine Bool.eq_false_iff.2 fun hbeq => ?_
    have htype : f.type = .boolean := by
      generalize f.type = t at hbeq
      cases JavaType.alike_of_beq hbeq
      rfl
    exact absurd (hprimitive .boolean htype) (by decide)
  simp only [scalar, hstring, hnumber, hboolean, hbytes]
  rfl

/-- There is a rule for every type. -/
theorem isString_or_mem_numbers_or_isUnsupported (t : JavaType) :
    t.isString = true ∨ (∃ p ∈ Primitive.numbers, t = .ofPrimitive p) ∨ t = .boolean ∨
      (t == .byteString) = true ∨ t.IsUnsupported := by
  cases hstring : t.isString with
  | true => exact .inl rfl
  | false =>
    cases hbytes : t == .byteString with
    | true => exact .inr (.inr (.inr (.inl rfl)))
    | false =>
      by_cases hprimitive : ∀ p, t = .ofPrimitive p → p = .char
      · exact .inr (.inr (.inr (.inr ⟨hstring, hbytes, hprimitive⟩)))
      · push Not at hprimitive
        obtain ⟨p, rfl, hchar⟩ := hprimitive
        cases hnumeric : p.isNumeric with
        | true => exact .inr (.inl ⟨p, Primitive.mem_numbers_iff.2 ⟨hnumeric, hchar⟩, rfl⟩)
        | false => cases p <;> simp_all [Primitive.isNumeric, JavaType.boolean]

/-- The literal of a hash code is refused where its type is not wide enough. -/
theorem ofString_codeText {p : Primitive} (hp : p ∈ Primitive.numbers) :
    Literal.ofString (.ofPrimitive p) f.codeText =
      if h : p.IsWideEnough (Text.hash f.name).toInt then
        .ok ⟨p, f.codeText, (Primitive.isLiteral_toString_toInt_iff hp _).2 h⟩
      else reject Literal.node "value" (.notLiteral f.codeText p.keyword) := by
  have hliteral := Primitive.isLiteral_toString_toInt_iff hp (Text.hash f.name)
  simp only [Literal.ofString, JavaType.ofPrimitive]
  split
  · next h => rw [dif_pos (hliteral.1 h)]
  · next h => rw [dif_neg (mt hliteral.2 h)]

/-! ## Plain fields -/

/-- Whether a field has a single value, which is neither of an enumeration nor a message. -/
structure IsPlain (f : Field) : Prop where
  single : f.isRepeated = false
  constant : f.isEnum = false
  message : f.isMessage = false

theorem IsPlain.placeholder_eq (h : f.IsPlain) (useExplicit : Bool) :
    f.placeholder useExplicit = f.scalar := by
  simp [placeholder, h.single, h.constant, h.message]

theorem scalar_eq_error_iff {r : Rejection} :
    f.scalar = .error r ↔
      f.type.IsUnsupported ∧ r = ⟨node, .unsupportedField f.name f.type.display⟩ ∨
      ∃ p ∈ Primitive.numbers, f.type = .ofPrimitive p ∧
        ¬ p.IsWideEnough (Text.hash f.name).toInt ∧
        r = ⟨Literal.node, .invalid "value" (.notLiteral f.codeText p.keyword)⟩ := by
  constructor
  · intro h
    rcases isString_or_mem_numbers_or_isUnsupported f.type with
      hstring | ⟨p, hp, htype⟩ | hboolean | hbytes | hunsupported
    · rw [scalar_of_isString hstring] at h
      cases h
    · rw [scalar_of_number htype hp, ofString_codeText hp] at h
      split at h
      · cases h
      · next hwide =>
        cases h
        exact .inr ⟨p, hp, htype, hwide, rfl⟩
    · rw [scalar_of_boolean hboolean] at h
      cases h
    · rw [scalar_of_byteString hbytes] at h
      cases h
    · rw [scalar_of_isUnsupported hunsupported] at h
      cases h
      exact .inl ⟨hunsupported, rfl⟩
  · rintro (⟨hunsupported, rfl⟩ | ⟨p, hp, htype, hwide, rfl⟩)
    · exact scalar_of_isUnsupported hunsupported
    · rw [scalar_of_number htype hp, ofString_codeText hp, dif_neg hwide]
      rfl

/-- A plain field of a type of numbers other than characters has a stand-in exactly if its type is
wide enough for the hash code of its name, which is all that the stand-in is. Any plain field is
refused for its type and name, if its type has no stand-ins, or else for a hash code that a `byte`
or a `short` has no room for. -/
theorem placeholder_of_isPlain (hplain : f.IsPlain) (useExplicit : Bool) :
    (∀ p ∈ Primitive.numbers, f.type = .ofPrimitive p →
      ((∃ e, f.placeholder useExplicit = .ok e) ↔
        p.IsWideEnough (Text.hash f.name).toInt) ∧
      ∀ e, f.placeholder useExplicit = .ok e → ∃ l : Literal,
        e = .value (.literal l) ∧ l.type = p ∧ l.text = toString (Text.hash f.name).toInt) ∧
    ∀ r, f.placeholder useExplicit = .error r ↔
      f.type.IsUnsupported ∧ r = ⟨node, .unsupportedField f.name f.type.display⟩ ∨
      ∃ p ∈ Primitive.numbers, f.type = .ofPrimitive p ∧
        ¬ p.IsWideEnough (Text.hash f.name).toInt ∧
        r = ⟨Literal.node, .invalid "value"
          (.notLiteral (toString (Text.hash f.name).toInt) p.keyword)⟩ := by
  rw [hplain.placeholder_eq useExplicit]
  refine ⟨fun p hp htype => ?_, fun r => scalar_eq_error_iff⟩
  rw [scalar_of_number htype hp, ofString_codeText hp]
  split
  · next hwide =>
    refine ⟨iff_of_true ⟨_, rfl⟩ hwide, ?_⟩
    intro e he
    obtain ⟨l, hl, rfl⟩ := map_eq_ok_iff.1 he
    cases hl
    exact ⟨_, rfl, rfl, rfl⟩
  · next hwide =>
    refine ⟨iff_of_false ?_ hwide, ?_⟩
    · rintro ⟨e, he⟩
      cases he
    · intro e he
      cases he

/-- A `long` field has a stand-in for its name, whatever the name is, and a `byte` field with a name
of one letter has one as well. -/
theorem placeholder_of_isPlain_long :
    let name : Field := { name := "name", type := .ofPrimitive .long }
    let letter : Field := { name := "a", type := .ofPrimitive .byte }
    name.IsPlain ∧ letter.IsPlain ∧
      (∃ l : Literal, name.placeholder true = .ok (.value (.literal l)) ∧ l.text = "3373707") ∧
      ∃ l : Literal, letter.placeholder true = .ok (.value (.literal l)) ∧ l.text = "97" := by
  intro name letter
  have hname : name.IsPlain := ⟨rfl, rfl, rfl⟩
  have hletter : letter.IsPlain := ⟨rfl, rfl, rfl⟩
  obtain ⟨hexists, hvalue⟩ := (placeholder_of_isPlain hname true).1 .long (by decide) rfl
  obtain ⟨hexists', hvalue'⟩ := (placeholder_of_isPlain hletter true).1 .byte (by decide) rfl
  obtain ⟨e, he⟩ := hexists.2 (by decide +kernel)
  obtain ⟨e', he'⟩ := hexists'.2 (by decide +kernel)
  obtain ⟨l, rfl, -, hl⟩ := hvalue e he
  obtain ⟨l', rfl, -, hl'⟩ := hvalue' e' he'
  exact ⟨hname, hletter, ⟨l, he, hl.trans (by decide +kernel)⟩, l', he',
    hl'.trans (by decide +kernel)⟩

/-- A `byte` field called `name` has no stand-in: the hash code of the name is refused as a literal,
though there is a rule for the type. -/
theorem placeholder_byte_refused :
    let name : Field := { name := "name", type := .ofPrimitive .byte }
    name.IsPlain ∧ Primitive.byte ∈ Primitive.numbers ∧
      name.placeholder false =
        .error ⟨Literal.node, .invalid "value" (.notLiteral "3373707" "byte")⟩ :=
  ⟨⟨rfl, rfl, rfl⟩, by decide, rfl⟩

end Field

end JavaSyntax
