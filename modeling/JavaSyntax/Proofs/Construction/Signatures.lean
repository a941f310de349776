import JavaSyntax.Tree.Basic
import Mathlib.Data.List.Forall2

/-!
# Signatures

The rules for a class compare methods by a text, the name with the erased types of the parameters.
`Method.signature_eq_iff` says what two methods with one such text have in common: their names, and
types of the parameters that agree up to type arguments. No character of a name or type is one of
those that the text is put together with, so nothing is confused.
-/

set_option autoImplicit false

namespace JavaSyntax

/-! ## Joined texts -/

namespace Text

/-- Behind the first, every text that was joined by a comma and a blank keeps the blank. -/
theorem cut_intercalate_comma {start first : List Char} {others : List (List Char)}
    (hstart : ',' ∉ start) (h : ∀ text ∈ first :: others, ',' ∉ text) :
    cut ',' (start ++ [',', ' '].intercalate (first :: others))
      = (start ++ first) :: others.map (' ' :: ·) := by
  induction others generalizing start first with
  | nil =>
    have hfirst := h first (by simp)
    have hcut : ',' ∉ start ++ first := by simp [hstart, hfirst]
    simpa [List.intercalate] using cut_of_not_mem hcut
  | cons second others ih =>
    have hfirst : ',' ∉ start ++ first := by simp [hstart, h first (by simp)]
    have hjoin : start ++ [',', ' '].intercalate (first :: second :: others)
        = (start ++ first) ++ ',' :: ([' '] ++ [',', ' '].intercalate (second :: others)) := by
      simp [List.intercalate]
    rw [hjoin, cut_append_separator hfirst,
      ih (by decide) fun text ht => h text (List.mem_cons_of_mem _ ht)]
    rfl

/-- Texts without a comma, none of them empty, can be told from the joined text. -/
theorem intercalate_comma_inj {texts texts' : List (List Char)}
    (h : ∀ text ∈ texts, ',' ∉ text ∧ text ≠ []) (h' : ∀ text ∈ texts', ',' ∉ text ∧ text ≠ [])
    (heq : [',', ' '].intercalate texts = [',', ' '].intercalate texts') : texts = texts' := by
  have hnil {first : List Char} {others : List (List Char)} (hne : first ≠ []) :
      [',', ' '].intercalate (first :: others) ≠ [] := by
    cases others <;> simp [List.intercalate, hne]
  cases texts with
  | nil =>
    cases texts' with
    | nil => rfl
    | cons first' others' => exact absurd heq.symm (hnil (h' first' (by simp)).2)
  | cons first others =>
    cases texts' with
    | nil => exact absurd heq (hnil (h first (by simp)).2)
    | cons first' others' =>
      have hcut := congrArg (cut ',') heq
      rw [← List.nil_append ([',', ' '].intercalate (first :: others)),
        ← List.nil_append ([',', ' '].intercalate (first' :: others')),
        cut_intercalate_comma (by simp) fun text ht => (h text ht).1,
        cut_intercalate_comma (by simp) fun text ht => (h' text ht).1] at hcut
      obtain ⟨hfirst, hothers⟩ := List.cons.inj hcut
      have hinj : Function.Injective ((' ' :: ·) : List Char → List Char) := List.cons_injective
      rw [List.map_injective_iff.2 hinj hothers]
      simpa using hfirst

end Text

/-! ## Erased types -/

/-- Two types that differ at most in their type arguments. -/
structure JavaType.SameErasure (t u : JavaType) : Prop where
  isArray : t.isArray = u.isArray
  kind : t.kind = u.kind
  fullName : t.reference?.map (·.fullName) = u.reference?.map (·.fullName)

namespace Reference

/-- A class is called by the parts of its name, and the unknown class by a question mark. -/
theorem fullName_eq (r : Reference) :
    r.fullName = "?" ∨ ∃ parts : List Identifier, parts ≠ [] ∧ r.fullName = dotted parts := by
  unfold fullName
  cases r.className? with
  | none => exact .inl rfl
  | some name => exact .inr ⟨name.parts, name.parts_ne_nil, name.fullName_eq_dotted⟩

theorem mem_fullName {r : Reference} {c : Char} (h : c ∈ r.fullName.toList) :
    c = '?' ∨ c = '.' ∨ Identifier.isPart c = true := by
  obtain hname | ⟨parts, -, hname⟩ := r.fullName_eq
  · rw [hname] at h
    exact .inl (by simpa using h)
  · rw [hname] at h
    exact .inr (eq_dot_or_isPart_of_mem_dotted h)

/-- A full name without a dot is an identifier. -/
theorem exists_text_eq_fullName {r : Reference} (h : '.' ∉ r.fullName.toList) :
    r.fullName = "?" ∨ ∃ part : Identifier, part.text = r.fullName := by
  obtain hname | ⟨parts, hne, hname⟩ := r.fullName_eq
  · exact .inl hname
  · have hsegments := segments_dotted hne
    rw [← hname, Text.segments, Text.cut_of_not_mem h] at hsegments
    obtain ⟨part, -, htext⟩ := List.map_eq_singleton_iff.1 hsegments.symm
    exact .inr ⟨part, by rw [htext, String.ofList_toList]⟩

/-- No class is called by a word that the language reserves. -/
theorem fullName_not_mem_reservedWords (r : Reference) : r.fullName ∉ reservedWords := by
  intro hmem
  have hdot : ∀ word ∈ reservedWords, '.' ∉ word.toList := by decide
  obtain hname | ⟨part, hname⟩ := exists_text_eq_fullName (hdot _ hmem)
  · rw [hname] at hmem
    exact absurd hmem (by decide)
  · exact part.unreserved (hname ▸ hmem)

theorem fullName_ne_empty (r : Reference) : r.fullName ≠ "" := by
  intro hempty
  obtain hname | ⟨part, hname⟩ := exists_text_eq_fullName (r := r) (by simp [hempty])
  · exact absurd (hname.symm.trans hempty) (by decide)
  · exact part.text_ne_empty (hname.trans hempty)

end Reference

namespace JavaType

/-- The name of a type or of its elements, without type arguments. -/
def elementName (t : JavaType) : String := t.reference?.elim t.kind.keyword (·.fullName)

theorem keyword_mem_reservedWords {t : JavaType} (h : t.reference? = none) :
    t.kind.keyword ∈ reservedWords := by
  rcases t with _ | (p | r) | (p | r)
  · decide
  · cases p <;> decide
  · cases h
  · cases p <;> decide
  · cases h

theorem kind_of_reference? {t : JavaType} {r : Reference} (h : t.reference? = some r) :
    t.kind = .object := by
  rcases t with _ | (_ | _) | (_ | _) <;> first | rfl | cases h

theorem all_isPart_keyword (k : Kind) : k.keyword.toList.all Identifier.isPart = true := by
  rcases k with _ | p | _
  · decide
  · cases p <;> decide
  · decide

theorem mem_elementName {t : JavaType} {c : Char} (h : c ∈ t.elementName.toList) :
    c = '?' ∨ c = '.' ∨ Identifier.isPart c = true := by
  unfold elementName at h
  cases hr : t.reference? with
  | none =>
    rw [hr] at h
    exact .inr (.inr (List.all_eq_true.1 (all_isPart_keyword _) c h))
  | some r =>
    rw [hr] at h
    exact Reference.mem_fullName h

theorem elementName_ne_empty (t : JavaType) : t.elementName ≠ "" := by
  unfold elementName
  cases hr : t.reference? with
  | none =>
    intro hempty
    have hmem := keyword_mem_reservedWords hr
    rw [show t.kind.keyword = "" from hempty] at hmem
    exact absurd hmem (by decide)
  | some r => exact r.fullName_ne_empty

theorem keyword_injective {k l : Kind} (h : k.keyword = l.keyword) : k = l := by
  rcases k with _ | p | _ <;> rcases l with _ | q | _ <;> (try cases p) <;> (try cases q) <;>
    first | rfl | exact absurd h (by decide)

theorem elementName_eq_iff {t u : JavaType} :
    t.elementName = u.elementName ↔
      t.kind = u.kind ∧ t.reference?.map (·.fullName) = u.reference?.map (·.fullName) := by
  unfold elementName
  cases ht : t.reference? with
  | none =>
    cases hu : u.reference? with
    | none => exact ⟨fun h => ⟨keyword_injective h, rfl⟩, fun h => congrArg Kind.keyword h.1⟩
    | some s =>
      simp only [Option.map_none, Option.map_some, reduceCtorEq, and_false, iff_false]
      intro h
      have hmem := keyword_mem_reservedWords ht
      rw [show t.kind.keyword = s.fullName from h] at hmem
      exact s.fullName_not_mem_reservedWords hmem
  | some r =>
    cases hu : u.reference? with
    | none =>
      simp only [Option.map_none, Option.map_some, reduceCtorEq, and_false, iff_false]
      intro h
      have hmem := keyword_mem_reservedWords hu
      rw [show u.kind.keyword = r.fullName from h.symm] at hmem
      exact r.fullName_not_mem_reservedWords hmem
    | some s => simp [kind_of_reference? ht, kind_of_reference? hu]

end JavaType

namespace Method

theorem erasedName_eq (t : JavaType) :
    erasedName t = if t.isArray then t.elementName ++ "[]" else t.elementName := rfl

/-- A bracket stands behind an erased type exactly if it is an array. -/
theorem erasedName_eq_iff {t u : JavaType} :
    erasedName t = erasedName u ↔ t.SameErasure u := by
  have hplain {v : JavaType} : '[' ∉ v.elementName.toList :=
    fun h => absurd (JavaType.mem_elementName h) (by decide)
  have hmixed {v w : JavaType} : v.elementName ≠ w.elementName ++ "[]" := by
    intro h
    apply hplain (v := v)
    simp [h]
  rw [erasedName_eq, erasedName_eq]
  cases ht : t.isArray <;> cases hu : u.isArray <;> simp only [Bool.false_eq_true, reduceIte]
  · rw [JavaType.elementName_eq_iff]
    exact ⟨fun h => ⟨ht.trans hu.symm, h.1, h.2⟩, fun h => ⟨h.kind, h.fullName⟩⟩
  · exact ⟨fun h => absurd h hmixed, fun h => absurd h.isArray (by simp [ht, hu])⟩
  · exact ⟨fun h => absurd h.symm hmixed, fun h => absurd h.isArray (by simp [ht, hu])⟩
  · rw [String.append_left_inj, JavaType.elementName_eq_iff]
    exact ⟨fun h => ⟨ht.trans hu.symm, h.1, h.2⟩, fun h => ⟨h.kind, h.fullName⟩⟩

theorem comma_not_mem_erasedName (t : JavaType) : ',' ∉ (erasedName t).toList := by
  have hplain : ',' ∉ t.elementName.toList :=
    fun h => absurd (JavaType.mem_elementName h) (by decide)
  rw [erasedName_eq]
  split <;> simp [hplain]

theorem erasedName_ne_nil (t : JavaType) : (erasedName t).toList ≠ [] := by
  have hne := t.elementName_ne_empty
  rw [erasedName_eq]
  split <;> simp [hne]

/-- The types of the parameters of a method. -/
def parameterTypes (m : Method) : List JavaType := m.header.parameters.map (·.type)

/-- Two methods clash if no call could tell them apart. -/
def Clashes (m m' : Method) : Prop :=
  m.name = m'.name ∧ List.Forall₂ JavaType.SameErasure m.parameterTypes m'.parameterTypes

theorem signature_eq (m : Method) :
    m.signature.toList
      = m.name.toList ++ '(' ::
        ([',', ' '].intercalate (m.parameterTypes.map fun t => (erasedName t).toList) ++
          [')']) := by
  simp [signature, parameterTypes, String.toList_intercalate, Function.comp_def]

/-- Two methods have one signature exactly if they clash. -/
theorem signature_eq_iff {m m' : Method} : m.signature = m'.signature ↔ m.Clashes m' := by
  have hname (m : Method) : '(' ∉ m.name.toList :=
    fun h => absurd (Identifier.isPart_of_mem h) (by decide)
  have htexts (ts : List JavaType) :
      ∀ text ∈ ts.map fun t => (erasedName t).toList, ',' ∉ text ∧ text ≠ [] := by
    intro text htext
    obtain ⟨t, -, rfl⟩ := List.mem_map.1 htext
    exact ⟨comma_not_mem_erasedName t, erasedName_ne_nil t⟩
  have htypes (ts us : List JavaType) :
      (ts.map fun t => (erasedName t).toList) = (us.map fun t => (erasedName t).toList) ↔
        List.Forall₂ JavaType.SameErasure ts us := by
    have hrelation : JavaType.SameErasure
        = fun t u => (erasedName t).toList = (erasedName u).toList := by
      funext t u
      rw [String.toList_inj, erasedName_eq_iff]
    rw [hrelation, ← List.forall₂_eq_eq_eq, List.forall₂_map_left_iff, List.forall₂_map_right_iff]
  rw [Clashes, ← htypes, ← String.toList_inj, signature_eq, signature_eq]
  constructor
  · intro h
    -- No name holds a bracket, so the first one ends the name.
    have hcut := congrArg (Text.cut '(') h
    rw [Text.cut_append_separator (hname m), Text.cut_append_separator (hname m')] at hcut
    have hnames := (List.cons.inj hcut).1
    rw [hnames, List.append_cancel_left_eq, List.cons_inj_right, List.append_cancel_right_eq] at h
    exact ⟨String.toList_inj.1 hnames, Text.intercalate_comma_inj (htexts _) (htexts _) h⟩
  · rintro ⟨hnames, htypes⟩
    rw [hnames, htypes]

end Method

end JavaSyntax
