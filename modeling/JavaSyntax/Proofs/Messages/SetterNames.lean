import JavaSyntax.Proofs.Messages.Samples
import JavaSyntax.Text.CamelCase
import Mathlib.Data.List.Forall2
import Mathlib.Tactic.Tauto

/-!
# Names of setters

A setter is named by a verb and the name of its field in upper camel case. Camel case works on one
character at a time: underscores go, and of the other characters only those at the beginning of a
part change. So it keeps the order, does nothing more when it is repeated, and makes no character
that could not stand in an identifier. A verb in front makes up for whatever the name begins with,
and no reserved word begins with one of the verbs.
-/

set_option autoImplicit false

namespace JavaSyntax

/-! ## Characters in camel case -/

namespace Text

/-- What camel case makes of a character behind another one, which is the first of the two: of a
small letter at the beginning of a part, the capital letter, and of any other character the same. -/
inductive Cased : Char × Char → Char → Prop
  | raised {c d : Char} (small : c.isLower = true) (capital : d.isUpper = true)
      (same : d.toLower = c) : Cased ('_', c) d
  | kept {before c : Char} (h : before = '_' → c.isLower = false) : Cased (before, c) c

/-- The characters of a text other than underscores, each with the one before it. What stands before
the text is given. -/
def letters (before : Char) (cs : List Char) : List (Char × Char) :=
  ((before :: cs).zip cs).filter (·.2 ≠ '_')

variable {before c d : Char} {cs rest : List Char}

theorem letters_underscore : letters before ('_' :: rest) = letters '_' rest := rfl

theorem letters_cons (h : c ≠ '_') :
    letters before (c :: rest) = (before, c) :: letters c rest := by
  simp [letters, h]

/-- The first letter begins a part. -/
theorem eq_underscore_of_letters {later : List (Char × Char)}
    (h : letters '_' cs = (before, c) :: later) : before = '_' := by
  induction cs with
  | nil => cases h
  | cons first rest ih =>
    by_cases hfirst : first = '_'
    · subst hfirst
      rw [letters_underscore] at h
      exact ih h
    · rw [letters_cons hfirst] at h
      cases h
      rfl

theorem mem_of_mem_letters {p : Char × Char} (h : p ∈ letters before cs) :
    p.2 ∈ cs ∧ p.2 ≠ '_' := by
  obtain ⟨hzip, hne⟩ := List.mem_filter.1 h
  exact ⟨(List.of_mem_zip hzip).2, by simpa using hne⟩

theorem toNat_lt_of_isUpper (c : Char) (h : c.isUpper = true) : c.toNat < 128 := by
  have hupper : c.isUpper = decide (c.val ≥ 65 ∧ c.val ≤ 90) := rfl
  rw [hupper, decide_eq_true_eq] at h
  exact Nat.lt_of_le_of_lt (UInt32.le_iff_toNat_le.1 h.2) (by decide)

/-- What holds of the first 128 characters holds of every character of ASCII. -/
theorem of_forall_ascii {p : Char → Prop} (h : ∀ n : Fin 128, p (Char.ofNat n))
    (hc : c.toNat < 128) : p c := by
  have hofNat : Char.ofNat c.toNat = c := Char.ofNat_toNat c
  exact hofNat ▸ h ⟨c.toNat, hc⟩

theorem toUpper_of_isLower (hascii : c.toNat < 128) (h : c.isLower = true) :
    c.toUpper.isUpper = true ∧ c.toUpper.toLower = c :=
  of_forall_ascii
    (p := fun c => c.isLower = true → c.toUpper.isUpper = true ∧ c.toUpper.toLower = c)
    (by decide +kernel) hascii h

theorem toUpper_of_not_isLower (hascii : c.toNat < 128) (h : c.isLower = false) : c.toUpper = c :=
  of_forall_ascii (p := fun c => c.isLower = false → c.toUpper = c) (by decide +kernel) hascii h

theorem cased_toUpper (hascii : c.toNat < 128) : Cased ('_', c) c.toUpper := by
  cases hc : c.isLower with
  | true =>
    obtain ⟨hcapital, hsame⟩ := toUpper_of_isLower hascii hc
    exact .raised hc hcapital hsame
  | false =>
    rw [toUpper_of_not_isLower hascii hc]
    exact .kept fun _ => hc

/-- A letter that begins a part in camel case is in upper case already. -/
theorem Cased.toUpper_eq (h : Cased ('_', c) d) (hascii : d.toNat < 128) : d.toUpper = d := by
  cases h with
  | raised _ capital _ =>
    exact of_forall_ascii (p := fun d => d.isUpper = true → d.toUpper = d) (by decide +kernel)
      hascii capital
  | kept h => exact toUpper_of_not_isLower hascii (h rfl)

/-- What holds of all capital letters and of a character holds of it in camel case. -/
theorem Cased.of_forall {p : Char → Prop} (h : Cased (before, c) d)
    (hcapital : ∀ letter : Char, letter.isUpper = true → p letter) (hc : p c) : p d := by
  cases h with
  | raised _ capital _ => exact hcapital d capital
  | kept _ => exact hc

/-- What holds of all capital letters and of some letters holds of these in camel case. -/
theorem forall_mem_of_forall₂_cased {p : Char → Prop} {ps : List (Char × Char)} {ds : List Char}
    (h : List.Forall₂ Cased ps ds) (hcapital : ∀ letter : Char, letter.isUpper = true → p letter)
    (hps : ∀ q ∈ ps, p q.2) : ∀ d ∈ ds, p d := by
  induction h with
  | nil => exact List.forall_mem_nil p
  | cons hcased _ ih =>
    obtain ⟨hfirst, hrest⟩ := List.forall_mem_cons.1 hps
    exact List.forall_mem_cons.2 ⟨hcased.of_forall hcapital hfirst, ih hrest⟩

/-- The first letter of a text cannot be raised any further. -/
theorem toUpper_eq_of_forall₂_cased {ds : List Char}
    (h : List.Forall₂ Cased (letters '_' cs) (d :: ds)) (hascii : d.toNat < 128) :
    d.toUpper = d := by
  obtain ⟨⟨before, c⟩, later, hcased, -, hletters⟩ := List.forall₂_cons_right_iff.1 h
  obtain rfl := eq_underscore_of_letters hletters
  exact hcased.toUpper_eq hascii

/-! ## Texts in camel case -/

/-- Camel case of what is left of a text, by what stands before it: an underscore, or a character
of the part that goes on. -/
theorem cased_of_cut {first : List Char} {others : List (List Char)}
    (hascii : ∀ c ∈ cs, c.toNat < 128) (hcut : cut '_' cs = first :: others) :
    List.Forall₂ Cased (letters '_' cs) (capitalized first ++ others.flatMap capitalized) ∧
      ∀ before, before ≠ '_' →
        List.Forall₂ Cased (letters before cs) (first ++ others.flatMap capitalized) := by
  -- A part begins at the start of the text or behind an underscore, so both are proved together.
  induction cs generalizing first others with
  | nil =>
    cases hcut
    exact ⟨.nil, fun _ _ => .nil⟩
  | cons c rest ih =>
    obtain ⟨hc, hrest⟩ := List.forall_mem_cons.1 hascii
    obtain ⟨segment, segments, hsegments⟩ := List.exists_cons_of_ne_nil (cut_ne_nil '_' rest)
    obtain ⟨hstart, hgoesOn⟩ := ih hrest hsegments
    by_cases hunderscore : c = '_'
    · subst hunderscore
      rw [cut, if_pos rfl, hsegments] at hcut
      cases hcut
      simp only [letters_underscore]
      exact ⟨hstart, fun _ _ => hstart⟩
    · rw [cut, if_neg hunderscore, hsegments] at hcut
      cases hcut
      constructor
      · rw [letters_cons hunderscore, capitalized, uppercase_of_ascii hc]
        exact .cons (cased_toUpper hc) (hgoesOn c hunderscore)
      · intro before hbefore
        rw [letters_cons hunderscore]
        exact .cons (.kept fun h => absurd h hbefore) (hgoesOn c hunderscore)

section Ascii

variable {n : String} (hascii : ∀ c ∈ n.toList, c.toNat < 128)
include hascii

/-- Camel case takes the letters of a text one by one. -/
theorem forall₂_cased :
    List.Forall₂ Cased (letters '_' n.toList) (upperCamelCase n).toList := by
  obtain ⟨first, others, hcut⟩ := List.exists_cons_of_ne_nil (cut_ne_nil '_' n.toList)
  rw [upperCamelCase, String.toList_ofList, hcut, List.flatMap_cons]
  exact (cased_of_cut hascii hcut).1

/-- What holds of all capital letters and of the letters of a text holds of it in camel case. -/
theorem forall_mem_upperCamelCase {p : Char → Prop}
    (hcapital : ∀ letter : Char, letter.isUpper = true → p letter)
    (hletters : ∀ c ∈ n.toList, c ≠ '_' → p c) : ∀ d ∈ (upperCamelCase n).toList, p d := by
  refine forall_mem_of_forall₂_cased (forall₂_cased hascii) hcapital fun q hq => ?_
  obtain ⟨hmem, hne⟩ := mem_of_mem_letters hq
  exact hletters q.2 hmem hne

theorem underscore_not_mem_upperCamelCase : '_' ∉ (upperCamelCase n).toList := by
  intro h
  refine forall_mem_upperCamelCase hascii (p := (· ≠ '_')) ?_ (fun _ _ hne => hne) _ h rfl
  rintro _ hcapital rfl
  exact absurd hcapital (by decide)

/-- A text in camel case is one part, and begins with what cannot be raised any further. -/
theorem upperCamelCase_upperCamelCase : upperCamelCase (upperCamelCase n) = upperCamelCase n := by
  have hone := cut_of_not_mem (underscore_not_mem_upperCamelCase hascii)
  have hcased := forall₂_cased hascii
  have hbelow := forall_mem_upperCamelCase hascii toNat_lt_of_isUpper fun c hc _ => hascii c hc
  apply String.toList_inj.1
  rw [upperCamelCase, String.toList_ofList, hone, List.flatMap_singleton]
  cases htext : (upperCamelCase n).toList with
  | nil => rfl
  | cons d later =>
    rw [htext] at hcased hbelow
    have hfirst : d.toNat < 128 := (List.forall_mem_cons.1 hbelow).1
    rw [capitalized, uppercase_of_ascii hfirst, toUpper_eq_of_forall₂_cased hcased hfirst]
    rfl

end Ascii

end Text

/-! ## Identifiers -/

namespace Identifier

/-- An identifier goes on with letters, digits, underscores and dollar signs. -/
theorem isPart_iff {c : Char} : isPart c = true ↔ c.isAlphanum = true ∨ c = '_' ∨ c = '$' := by
  have halphanum : c.isAlphanum = (c.isAlpha || c.isDigit) := rfl
  simp only [isPart, isStart, halphanum, Bool.or_eq_true, beq_iff_eq]
  tauto

theorem isPart_of_isUpper {c : Char} (h : c.isUpper = true) : isPart c = true := by
  have halpha : c.isAlpha = (c.isUpper || c.isLower) := rfl
  simp [isPart, isStart, halpha, h]

theorem isShaped_append {cs ds : List Char} (h : isShaped cs = true)
    (hparts : ∀ d ∈ ds, isPart d = true) : isShaped (cs ++ ds) = true := by
  cases cs with
  | nil => cases h
  | cons c cs =>
    simp only [isShaped, Bool.and_eq_true, List.all_eq_true] at h
    simp only [List.cons_append, isShaped, Bool.and_eq_true, List.all_eq_true]
    exact ⟨h.1, List.forall_mem_append.2 ⟨h.2, hparts⟩⟩

end Identifier

namespace Field

/-- The verbs that names of setters begin with. -/
def setterVerbs : List String := ["set", "addAll", "putAll"]

theorem setterName_eq (f : Field) :
    ∃ verb ∈ setterVerbs, f.setterName = verb ++ Text.upperCamelCase f.name := by
  refine ⟨_, ?_, rfl⟩
  cases f.isRepeated <;> cases f.isMap <;> decide

theorem isShaped_of_mem_setterVerbs :
    ∀ verb ∈ setterVerbs, Identifier.isShaped verb.toList = true := by decide

theorem not_isPrefix_of_mem_reservedWords :
    ∀ word ∈ reservedWords, ∀ verb ∈ setterVerbs, ¬ verb.toList <+: word.toList := by
  decide +kernel

/-- A verb makes an identifier of whatever could stand behind the beginning of one. -/
theorem isValid_verb_append {verb text : String} (hverb : verb ∈ setterVerbs)
    (htext : ∀ c ∈ text.toList, Identifier.isPart c = true) :
    Identifier.isValid (verb ++ text) = true := by
  have hshaped := Identifier.isShaped_append (isShaped_of_mem_setterVerbs verb hverb) htext
  have hfree : verb ++ text ∉ reservedWords := fun hreserved =>
    not_isPrefix_of_mem_reservedWords _ hreserved verb hverb
      ⟨text.toList, String.toList_append.symm⟩
  rw [Identifier.isValid, String.toList_append, hshaped, Bool.true_and, Bool.not_eq_true',
    List.contains_eq_mem, decide_eq_false hfree]

end Field

/-! ## Names of setters -/

/-- Camel case leaves no underscore in an ASCII text, does nothing more when it is repeated, and
keeps all other characters in their order, except that small letters become capital at the beginning
of a part. If the text has letters, digits, underscores and dollar signs only, it becomes a name
behind each of the verbs. So no field with this name makes a sample fail for the name of its setter:
a sample that fails does so without any fields already, for a stand-in, or for the name of the
setter of another field. -/
theorem upperCamelCase_names_setter {n : String} (hascii : ∀ c ∈ n.toList, c.toNat < 128) :
    '_' ∉ (Text.upperCamelCase n).toList ∧
    Text.upperCamelCase (Text.upperCamelCase n) = Text.upperCamelCase n ∧
    List.Forall₂ Text.Cased (Text.letters '_' n.toList) (Text.upperCamelCase n).toList ∧
    ((∀ c ∈ n.toList, c.isAlphanum = true ∨ c = '_' ∨ c = '$') →
      (∀ verb ∈ ["set", "addAll", "putAll"],
        Identifier.isValid (verb ++ Text.upperCamelCase n) = true ∧
          ∃ i, Identifier.ofString (verb ++ Text.upperCamelCase n) = .ok i) ∧
      ∀ (m : Message) (known : List String) (r : Rejection), m.sample known = .error r →
        { m with fields := [] }.sample known = .error r ∨
        ∃ f ∈ m.sampled known, f.placeholder true = .error r ∨
          f.name ≠ n ∧ Identifier.ofString f.setterName = .error r) := by
  refine ⟨Text.underscore_not_mem_upperCamelCase hascii,
    Text.upperCamelCase_upperCamelCase hascii, Text.forall₂_cased hascii, fun hletters => ?_⟩
  have hparts : ∀ d ∈ (Text.upperCamelCase n).toList, Identifier.isPart d = true :=
    Text.forall_mem_upperCamelCase hascii (fun _ => Identifier.isPart_of_isUpper)
      fun c hc _ => Identifier.isPart_iff.2 (hletters c hc)
  have hvalid : ∀ verb ∈ Field.setterVerbs,
      Identifier.isValid (verb ++ Text.upperCamelCase n) = true :=
    fun verb hverb => Field.isValid_verb_append hverb hparts
  have hname : ∀ verb ∈ Field.setterVerbs,
      ∃ i, Identifier.ofString (verb ++ Text.upperCamelCase n) = .ok i := by
    intro verb hverb
    obtain ⟨i, hi⟩ := Identifier.isValid_iff.1 (hvalid verb hverb)
    exact ⟨i, Identifier.ofString_eq_ok_iff.2 hi⟩
  refine ⟨fun verb hverb => ⟨hvalid verb hverb, hname verb hverb⟩, ?_⟩
  intro m known r hr
  obtain hbare | ⟨f, hf, hfailure⟩ := Message.failsWith_of_sample hr
  · exact .inl hbare
  · refine .inr ⟨f, hf, hfailure.imp id ?_⟩
    rintro ⟨-, hrefused⟩
    refine ⟨?_, hrefused⟩
    rintro rfl
    obtain ⟨verb, hverb, hsetter⟩ := f.setterName_eq
    obtain ⟨i, hi⟩ := hname verb hverb
    rw [hsetter, hi] at hrefused
    cases hrefused

/-- Underscores in any number and digits at the beginning of a part do no harm. -/
theorem upperCamelCase_names_setter_digits :
    let n := "_max__2nd$_"
    let retries : Field := { name := n, type := .ofPrimitive .int }
    let echo : Reference :=
      .generated ⟨[{ text := "com" }], [], { text := "EchoRequest" }⟩ [] none false
    let m : Message := { name := "EchoRequest", type := .ofReference echo, fields := [retries] }
    Text.upperCamelCase n = "Max2nd$" ∧ Text.upperCamelCase "Max2nd$" = "Max2nd$" ∧
      Identifier.isValid "setMax2nd$" = true ∧ ∀ r, m.sample [] ≠ .error r := by
  intro n retries echo m
  have hascii : ∀ c ∈ n.toList, c.toNat < 128 := by simp [n]
  have hcamel : Text.upperCamelCase n = "Max2nd$" := by decide +kernel
  have hbare : ({ m with fields := [] }.sample []).isOk = true := by decide +kernel
  have hvalue : (retries.placeholder true).isOk = true := by decide +kernel
  obtain ⟨-, hagain, -, hnames⟩ := upperCamelCase_names_setter hascii
  obtain ⟨hverbs, hsample⟩ := hnames (by simp [n])
  rw [hcamel] at hagain hverbs
  refine ⟨hcamel, hagain, (hverbs "set" (by decide)).1, fun r hr => ?_⟩
  obtain h | ⟨f, hf, hfailure⟩ := hsample m [] r hr
  · rw [h] at hbare
    cases hbare
  · obtain rfl : f = retries := List.mem_singleton.1 hf
    obtain hrefused | ⟨hother, -⟩ := hfailure
    · rw [hrefused] at hvalue
      cases hvalue
    · exact hother rfl

end JavaSyntax
