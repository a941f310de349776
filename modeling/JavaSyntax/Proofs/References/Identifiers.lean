import JavaSyntax.Proofs.Construction.Methods
import JavaSyntax.Proofs.Construction.Rebuilding
import JavaSyntax.Proofs.Shapes.Parts
import JavaSyntax.Proofs.Writing.Emission

/-!
# Names are chains of identifiers

A text is checked in two ways: one check answers, the other makes an identifier or says what is
wrong. Both accept just the texts that `Identifier.IsSpelling` describes by ranges of characters.

The names of classes are checked in pieces. A class that exists already is given by its full name,
which is cut at the dots; a class that is being generated by a package, which is cut at the dots,
and by single names, which are not. A name is accepted only if every piece passes the check. Put
together and cut again, the full name has the very pieces that were given. A constructor takes its
name from the last of them, and a class is written by the last few of them, so that neither is ever
anything but identifiers.
-/

set_option autoImplicit false

namespace JavaSyntax

/-! ## What spells an identifier -/

namespace Identifier

/-- A letter of ASCII, an underscore or a dollar sign. -/
def MayBegin (c : Char) : Prop := 'A' ≤ c ∧ c ≤ 'Z' ∨ 'a' ≤ c ∧ c ≤ 'z' ∨ c = '_' ∨ c = '$'

/-- The same or a digit of ASCII. -/
def MayFollow (c : Char) : Prop := MayBegin c ∨ '0' ≤ c ∧ c ≤ '9'

/-- What a text must be to spell an identifier. -/
structure IsSpelling (text : String) : Prop where
  nonempty : text ≠ ""
  first : ∀ c ∈ text.toList.head?, MayBegin c
  later : ∀ c ∈ text.toList.tail, MayFollow c
  unreserved : text ∉ reservedWords

theorem isStart_iff_mayBegin {c : Char} : isStart c = true ↔ MayBegin c := by
  have halpha : c.isAlpha = (decide ('A' ≤ c ∧ c ≤ 'Z') || decide ('a' ≤ c) && decide (c ≤ 'z')) :=
    rfl
  simp only [isStart, MayBegin, halpha, Bool.or_eq_true, Bool.and_eq_true, decide_eq_true_eq,
    beq_iff_eq, or_assoc]

theorem isPart_iff_mayFollow {c : Char} : isPart c = true ↔ MayFollow c := by
  have hdigit : c.isDigit = (decide ('0' ≤ c) && decide (c ≤ '9')) := rfl
  simp only [isPart, MayFollow, hdigit, isStart_iff_mayBegin, Bool.or_eq_true, Bool.and_eq_true,
    decide_eq_true_eq]

theorem isShaped_iff {text : String} :
    isShaped text.toList = true ↔ text ≠ "" ∧ (∀ c ∈ text.toList.head?, MayBegin c) ∧
      ∀ c ∈ text.toList.tail, MayFollow c := by
  rw [ne_eq, ← String.toList_eq_nil_iff]
  cases text.toList with
  | nil => simp [isShaped]
  | cons c rest => simp [isShaped, isStart_iff_mayBegin, isPart_iff_mayFollow]

/-- The check on texts accepts the spellings of identifiers. -/
theorem isValid_iff_isSpelling {text : String} : isValid text = true ↔ IsSpelling text := by
  rw [isValid, Bool.and_eq_true, isShaped_iff, Bool.not_eq_true', List.contains_eq_mem,
    decide_eq_false_iff_not]
  constructor
  · rintro ⟨⟨hnonempty, hfirst, hlater⟩, hunreserved⟩
    exact ⟨hnonempty, hfirst, hlater, hunreserved⟩
  · intro h
    exact ⟨⟨h.nonempty, h.first, h.later⟩, h.unreserved⟩

/-- An identifier is made of a text exactly if the check accepts the text, and then it is called
so. -/
theorem isValid_iff_ofString {text : String} :
    isValid text = true ↔ ∃ identifier, ofString text = .ok identifier ∧ identifier.text = text := by
  simp only [isValid_iff, ofString_eq_ok_iff, and_self]

theorem isValid_of_mem_map_text {parts : List Identifier} {segment : String}
    (h : segment ∈ parts.map (·.text)) : isValid segment = true := by
  obtain ⟨part, -, hpart⟩ := List.mem_map.1 h
  exact isValid_iff.2 ⟨part, hpart⟩

/-- Whether a name consists of identifiers with dots between them. -/
def IsChain (name : String) : Prop := ∀ segment ∈ Text.segments '.' name, isValid segment = true

theorem isChain_dotted {parts : List Identifier} (h : parts ≠ []) : IsChain (dotted parts) := by
  intro segment hsegment
  rw [segments_dotted h] at hsegment
  exact isValid_of_mem_map_text hsegment

end Identifier

/-! ## Pieces of a name -/

/-- The pieces of the name that is given for a class that exists already. -/
def CompiledDraft.pieces (draft : CompiledDraft) : List String :=
  draft.className.elim [] (Text.segments '.')

/-- The pieces of the name that is given for a class that is being generated. -/
def GeneratedDraft.pieces (draft : GeneratedDraft) : List String :=
  draft.package.elim [] (Text.segments '.') ++ draft.enclosing ++ draft.name.toList

namespace Reference

/-- The references that are built from the pieces of a name, and what becomes of them with other
type arguments, any number of times. -/
inductive BuiltFrom : List String → Reference → Prop
  | compiled {draft : CompiledDraft} {r : Reference} (h : draft.build = .ok r) :
    BuiltFrom draft.pieces r
  | generated {draft : GeneratedDraft} {r : Reference} (h : draft.build = .ok r) :
    BuiltFrom draft.pieces r
  | withArguments {pieces : List String} {r : Reference} (h : BuiltFrom pieces r)
    (arguments : List Reference) : BuiltFrom pieces (r.withArguments arguments)

theorem className?_withArguments (r : Reference) (arguments : List Reference) :
    (r.withArguments arguments).className? = r.className? := by
  cases r <;> rfl

/-- What is built names a class, and the pieces of its name are the parts of the class. -/
theorem BuiltFrom.exists_className {pieces : List String} {r : Reference}
    (h : BuiltFrom pieces r) :
    ∃ c, r.className? = some c ∧ pieces = c.parts.map (·.text) := by
  -- Other type arguments leave the class alone, which is why the induction is about the class.
  induction h with
  | compiled h =>
    obtain ⟨text, c, htext, hc, rfl⟩ := CompiledDraft.build_eq_ok_iff.1 h
    refine ⟨c, rfl, ?_⟩
    rw [CompiledDraft.pieces, htext, ← c.segments_fullName, ClassName.fullName_of_ofString? hc]
    rfl
  | @generated _ r h =>
    obtain ⟨hdraft, hpackage⟩ := GeneratedDraft.build_eq_ok_iff.1 h
    cases r with
    | generated c arguments parent isStaticImport =>
      cases hdraft
      have hsegments : Text.segments '.' c.packageName = c.package.map (·.text) :=
        segments_dotted (hpackage c rfl)
      refine ⟨c, rfl, ?_⟩
      simp [GeneratedDraft.pieces, hsegments, ClassName.parts]
    | wildcard | compiled => cases hdraft
  | withArguments _ arguments ih => rwa [className?_withArguments]

end Reference

/-- Of a class that exists already, the pieces are checked, and that the classes start at one of
them. -/
theorem CompiledDraft.exists_build_eq_ok_iff {draft : CompiledDraft} :
    (∃ r, draft.build = .ok r) ↔ (∀ piece ∈ draft.pieces, Identifier.isValid piece = true) ∧
      ∃ piece ∈ draft.pieces, Text.isCapitalized piece = true := by
  simp only [build_eq_ok_iff, pieces]
  cases draft.className with
  | none => simp
  | some text =>
    rw [Option.elim_some, ← ClassName.exists_ofString?_eq_some_iff]
    constructor
    · rintro ⟨_, _, c, htext, hc, -⟩
      cases htext
      exact ⟨c, hc⟩
    · rintro ⟨c, hc⟩
      exact ⟨_, text, c, rfl, hc, rfl⟩

/-- Of a class that is being generated, the pieces are checked, and that none is missing. -/
theorem GeneratedDraft.exists_build_eq_ok_iff {draft : GeneratedDraft} :
    (∃ r, draft.build = .ok r) ↔ draft.package.isSome = true ∧ draft.name.isSome = true ∧
      ∀ piece ∈ draft.pieces, Identifier.isValid piece = true := by
  constructor
  · rintro ⟨r, h⟩
    obtain ⟨c, -, hpieces⟩ := (Reference.BuiltFrom.generated h).exists_className
    have hvalid : ∀ piece ∈ draft.pieces, Identifier.isValid piece = true := by
      intro piece hpiece
      rw [hpieces] at hpiece
      exact Identifier.isValid_of_mem_map_text hpiece
    have hdraft := (build_eq_ok_iff.1 h).1
    cases r with
    | generated =>
      cases hdraft
      exact ⟨rfl, rfl, hvalid⟩
    | wildcard | compiled => cases hdraft
  · obtain ⟨package, name, enclosing, arguments, parent, isStaticImport⟩ := draft
    rintro ⟨hpackage, hname, hpieces⟩
    obtain ⟨package, rfl⟩ := Option.isSome_iff_exists.1 hpackage
    obtain ⟨name, rfl⟩ := Option.isSome_iff_exists.1 hname
    simp only [pieces, Option.elim_some, Option.toList_some, List.append_assoc,
      List.forall_mem_append, List.forall_mem_singleton] at hpieces
    obtain ⟨hsegments, henclosing, hlast⟩ := hpieces
    obtain ⟨parts, hparts⟩ := Identifier.exists_ofDotted?_eq_some_iff.2 hsegments
    obtain ⟨around, rfl⟩ := exists_eq_map_iff.2 fun text htext =>
      Identifier.isValid_iff.1 (henclosing text htext)
    obtain ⟨identifier, rfl⟩ := Identifier.isValid_iff.1 hlast
    obtain ⟨hne, rfl⟩ := Identifier.ofDotted?_eq_some_iff_dotted.1 hparts
    refine ⟨.generated ⟨parts, around, identifier⟩ arguments parent isStaticImport,
      build_eq_ok_iff.2 ⟨rfl, ?_⟩⟩
    simpa [Reference.className?] using hne

/-! ## Constructors -/

namespace MethodDraft

variable {type : JavaType} {r : Reference} {c : ClassName}

/-- Nothing but a class is needed for a constructor. -/
theorem exists_build_constructor (htype : type.reference? = some r) (hc : r.className? = some c) :
    ∃ m, (constructor type).build = .ok m := by
  have hname : className? type = some c.name.text := by
    simp [className?, htype, Reference.name, hc]
  refine exists_build_eq_ok_iff.2 ⟨⟨c.name.text, hname, ?_⟩,
    .constructor rfl rfl rfl rfl rfl, by simp [constructor], by simp [constructor],
    by simp [constructor], by simp [constructor]⟩
  exact Identifier.isValid_iff.2 ⟨c.name, rfl⟩

/-- A constructor is named after its class, whether or not the name is left to the class. -/
theorem name_of_build_constructor {draft : MethodDraft} {m : Method}
    (hconstructor : draft.isConstructor = true) (hdraft : draft.returnType = some type)
    (htype : type.reference? = some r) (h : draft.build = .ok m) : m.name = r.name := by
  -- The shape is what ties the name to the class, also where the draft gives a name itself.
  have hname : some m.name = draft.chosenName? := congrArg MethodDraft.name (toDraft_of_build h)
  cases (exists_build_eq_ok_iff.1 ⟨m, h⟩).shape with
  | constructor _ _ _ _ hclass =>
    rw [← hname, hdraft, Option.getD_some, className?, htype] at hclass
    exact (Option.some.inj hclass).symm
  | abstract hother => simp [hconstructor] at hother
  | void hother => simp [hconstructor] at hother
  | valued hother => simp [hconstructor] at hother

end MethodDraft

/-! ## Written names -/

namespace ImportTable

/-- The name by which a class is written consists of last parts of its full name. -/
theorem segments_register (t : ImportTable) {r : Reference} {c : ClassName}
    (hc : r.className? = some c) :
    Text.segments '.' (t.register r).1 <:+ c.parts.map (·.text) ∧
      Identifier.IsChain (t.register r).1 := by
  obtain ⟨parts, hne, hsuffix, hname⟩ := (t.enter r).exists_nameOf_eq hc
  rw [register, hname]
  refine ⟨?_, Identifier.isChain_dotted hne⟩
  rw [segments_dotted hne]
  exact hsuffix.map _

end ImportTable

namespace Writer

/-- Whether a text, as far as there is any, opens a bracket of a type. -/
def OpensBracket (text : String) : Prop := ∀ c ∈ text.toList.head?, c = '<' ∨ c = '['

section Page

variable (width level : Nat) (nameOf : Reference → String) (type : JavaType)

theorem opensBracket_bracketsDoc :
    OpensBracket (Doc.write width level nameOf type.bracketsDoc) := by
  rw [JavaType.bracketsDoc]
  split <;> simp [OpensBracket, Doc.write, Doc.ofText, Piece.write]

theorem opensBracket_argumentsDoc (arguments : List Reference) :
    OpensBracket
      (Doc.write width level nameOf (Reference.argumentsDoc arguments ++ type.bracketsDoc)) := by
  cases arguments with
  | nil => exact opensBracket_bracketsDoc width level nameOf type
  | cons a as =>
    simp [OpensBracket, Reference.argumentsDoc, Doc.write_cons, Piece.write]

end Page

/-- What begins with a class begins with the name that registering it returns. -/
theorem buffer_put_name_cons (w : Writer) (r : Reference) (d : Doc) :
    ∃ nameOf, (w.put (.name r :: d)).buffer =
      w.buffer ++ (w.imports.register r).1 ++
        Doc.write w.options.indentWidth w.indentLevel nameOf d := by
  rw [← List.singleton_append, put_append, put_name]
  exact ⟨_, rfl⟩

/-- A type is written by the name of its class, with nothing but brackets behind it. -/
theorem exists_buffer_put_eq (w : Writer) {type : JavaType} {r : Reference}
    (htype : type.reference? = some r) {d : Doc} (hd : d ∈ [type.doc, type.rawDoc]) :
    ∃ rest, (w.put d).buffer = w.buffer ++ (w.imports.register r).1 ++ rest ∧
      OpensBracket rest := by
  have hdoc : type.doc = .name r :: (Reference.argumentsDoc r.arguments ++ type.bracketsDoc) := by
    rw [JavaType.doc, htype, Option.elim_some, r.doc_eq, List.cons_append]
  have hraw : type.rawDoc = .name r :: type.bracketsDoc := by
    rw [JavaType.rawDoc, htype, Option.elim_some, List.singleton_append]
  rw [hdoc, hraw, List.mem_pair] at hd
  obtain rfl | rfl := hd
  · obtain ⟨nameOf, hbuffer⟩ := w.buffer_put_name_cons r _
    exact ⟨_, hbuffer, opensBracket_argumentsDoc _ _ nameOf type r.arguments⟩
  · obtain ⟨nameOf, hbuffer⟩ := w.buffer_put_name_cons r _
    exact ⟨_, hbuffer, opensBracket_bracketsDoc _ _ nameOf type⟩

end Writer

/-! ## All of it -/

namespace Reference

/-- Names are chains of identifiers. The check on texts accepts those of which an identifier can be
made, and these are the spellings of identifiers. References are built of pieces that pass this
check: from a whole name if one of them begins with a capital letter, from a package and names if
both are given. The full name of whatever is built has the pieces as its segments. So a constructor
can be named after the class, and is; and every name by which a class is written, alone or in a
type, consists of last pieces of its full name. -/
theorem built_names_are_identifiers :
    (∀ text,
      (Identifier.isValid text = true ↔
        ∃ identifier, Identifier.ofString text = .ok identifier ∧ identifier.text = text) ∧
      (Identifier.isValid text = true ↔ Identifier.IsSpelling text)) ∧
    (∀ draft : CompiledDraft, (∃ r, draft.build = .ok r) ↔
      (∀ piece ∈ draft.pieces, Identifier.isValid piece = true) ∧
        ∃ piece ∈ draft.pieces, Text.isCapitalized piece = true) ∧
    (∀ draft : GeneratedDraft, (∃ r, draft.build = .ok r) ↔
      draft.package.isSome = true ∧ draft.name.isSome = true ∧
        ∀ piece ∈ draft.pieces, Identifier.isValid piece = true) ∧
    ∀ pieces r, BuiltFrom pieces r →
      (Text.segments '.' r.fullName = pieces ∧ Identifier.IsChain r.fullName) ∧
      (∀ type : JavaType, type.reference? = some r →
        (∃ m, (MethodDraft.constructor type).build = .ok m) ∧
        ∀ (draft : MethodDraft) m, draft.isConstructor = true → draft.returnType = some type →
          draft.build = .ok m → m.name = r.name ∧ pieces.getLast? = some m.name) ∧
      (∀ t : ImportTable, Text.segments '.' (t.register r).1 <:+ pieces ∧
        Identifier.IsChain (t.register r).1) ∧
      ∀ (w : Writer) (type : JavaType), type.reference? = some r →
        ∀ d ∈ [type.doc, type.rawDoc], ∃ rest,
          (w.put d).buffer = w.buffer ++ (w.imports.register r).1 ++ rest ∧
            Writer.OpensBracket rest := by
  refine ⟨fun text => ⟨Identifier.isValid_iff_ofString, Identifier.isValid_iff_isSpelling⟩,
    fun _ => CompiledDraft.exists_build_eq_ok_iff, fun _ => GeneratedDraft.exists_build_eq_ok_iff,
    fun pieces r h => ?_⟩
  obtain ⟨c, hc, rfl⟩ := h.exists_className
  have hfullName : r.fullName = c.fullName := by rw [fullName, hc, Option.elim_some]
  refine ⟨?_, fun type htype => ⟨MethodDraft.exists_build_constructor htype hc, ?_⟩,
    fun t => t.segments_register hc, fun w type htype d hd => w.exists_buffer_put_eq htype hd⟩
  · rw [hfullName]
    refine ⟨c.segments_fullName, ?_⟩
    rw [c.fullName_eq_dotted]
    exact Identifier.isChain_dotted c.parts_ne_nil
  · intro draft m hconstructor hdraft hm
    have hname := MethodDraft.name_of_build_constructor hconstructor hdraft htype hm
    refine ⟨hname, ?_⟩
    simp [hname, name, hc, ClassName.parts]

/-- A constructor and an array of a nested class with a type argument, and a reserved word. -/
theorem built_names_are_identifiers_nested :
    let draft : GeneratedDraft :=
      { package := some "com.foo", name := some "Entry_1", enclosing := ["$Map"] }
    ∃ bare, draft.build = .ok bare ∧ ∃ filled, filled = bare.withArguments [.wildcard []] ∧
      Text.segments '.' filled.fullName = ["com", "foo", "$Map", "Entry_1"] ∧
      Identifier.IsChain filled.fullName ∧
      (∃ m, (MethodDraft.constructor (.array (.reference filled))).build = .ok m ∧
        m.name = "Entry_1") ∧
      (∀ t : ImportTable, Identifier.IsChain (t.register filled).1) ∧
      (∃ rest, ((Writer.ofOptions {}).put (JavaType.array (.reference filled)).doc).buffer
        = "$Map.Entry_1" ++ rest ∧ Writer.OpensBracket rest) ∧
      ¬ Identifier.IsSpelling "class" := by
  intro draft
  obtain ⟨bare, hbare, hlast, hwritten⟩ : ∃ bare, draft.build = .ok bare ∧
      bare.name = "Entry_1" ∧
      ((Writer.ofOptions {}).imports.register (bare.withArguments [.wildcard []])).1
        = "$Map.Entry_1" := ⟨_, rfl, by decide, by decide⟩
  obtain ⟨filled, hfilled⟩ : ∃ filled, filled = bare.withArguments [.wildcard []] := ⟨_, rfl⟩
  have hpieces : draft.pieces = ["com", "foo", "$Map", "Entry_1"] := by decide
  have hbuilt : BuiltFrom draft.pieces filled := hfilled ▸ .withArguments (.generated hbare) _
  have hname : filled.name = "Entry_1" := by rw [hfilled, ← hlast]; cases bare <;> rfl
  obtain ⟨htexts, -, -, hreferences⟩ := built_names_are_identifiers
  obtain ⟨⟨hsegments, hchain⟩, hconstructors, htables, hwriters⟩ := hreferences _ filled hbuilt
  have htype : (JavaType.array (.reference filled)).reference? = some filled := rfl
  obtain ⟨⟨m, hm⟩, hnames⟩ := hconstructors _ htype
  obtain ⟨rest, hbuffer, hrest⟩ := hwriters (Writer.ofOptions {}) _ htype _ List.mem_cons_self
  refine ⟨bare, hbare, filled, hfilled, hsegments.trans hpieces, hchain,
    ⟨m, hm, (hnames _ m rfl rfl hm).1.trans hname⟩, fun t => (htables t).2, ⟨rest, ?_, hrest⟩,
    (htexts "class").2.not.1 (by decide)⟩
  rw [hbuffer, hfilled, hwritten]
  rfl

end Reference

end JavaSyntax
