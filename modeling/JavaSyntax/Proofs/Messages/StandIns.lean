import JavaSyntax.Proofs.Construction.Expressions
import JavaSyntax.Proofs.Messages.Scalars

/-!
# Stand-ins fit their fields

A single field accepts its stand-in. Where the stand-in is made for the type of the field, it has
this type or one with the same full name, and names are what acceptance goes by. A field of
collections is filled with a list or a map, whatever its type is: it accepts them if it is one of
the classes that these inherit from. The type arguments are those of the field, and a field that has
too few of them is refused before any is taken.
-/

set_option autoImplicit false

namespace JavaSyntax

theorem JavaType.IsClass.isVoid {t : JavaType} (h : t.IsClass) : t.isVoid = false :=
  (isReference_iff.1 h.1).1

theorem CallDraft.type_of_build {draft : CallDraft} {e : Expr} (h : draft.build = .ok e) :
    e.type = draft.returnType.getD .void := by
  have hdraft := (build_eq_ok_iff.1 h).2
  cases e with
  | call name receiver typeArguments arguments type =>
    have htype : some type = some (draft.returnType.getD .void) :=
      congrArg CallDraft.returnType (Option.some.inj hdraft)
    exact Option.some.inj htype
  | _ => cases hdraft

namespace Reference

variable {r : Reference}

theorem isSubtypeOf_withArguments (arguments : List Reference) (fullName : String) :
    (r.withArguments arguments).isSubtypeOf fullName = r.isSubtypeOf fullName := by
  rcases r with _ | _ | ⟨_, _, _ | _, _⟩ <;> rfl

theorem fullName_withArguments (arguments : List Reference) :
    (r.withArguments arguments).fullName = r.fullName := by
  cases r <;> rfl

theorem arguments_withArguments (arguments : List Reference) :
    (r.withArguments arguments).arguments = arguments := by
  cases r <;> rfl

end Reference

namespace Field

variable {f : Field} {useExplicit : Bool} {e : Expr}

/-! ## Collections -/

/-- The type arguments of the class of a field. -/
def typeArguments (f : Field) : List Reference := f.type.reference?.elim [] (·.arguments)

/-- How many type arguments the collection in a field takes. -/
def arity (f : Field) : Nat := if f.isMap then 2 else 1

/-- The class that the collection in a field is made of, with these type arguments. -/
def collection (f : Field) (arguments : List Reference) : Reference :=
  (Reference.wellKnown (if f.isMap then ClassName.hashMap else ClassName.arrayList)).withArguments
    arguments

theorem fullName_collection (arguments : List Reference) :
    (f.collection arguments).fullName =
      if f.isMap then "java.util.HashMap" else "java.util.ArrayList" := by
  rw [collection, Reference.fullName_withArguments]
  cases f.isMap <;> decide

/-- The collection is no type of `null`, so that objects can be made of it. -/
theorem isClass_collection (arguments : List Reference) :
    (JavaType.ofReference (f.collection arguments)).IsClass := by
  have hname : ((f.collection arguments).fullName == Ancestry.nullClass) = false := by
    rw [fullName_collection]
    cases f.isMap <;> decide
  have hnull : (f.collection arguments).isNull = false := by
    rw [Reference.isNull, Reference.isExactly, hname, Bool.and_false]
  exact ⟨rfl, rfl, hnull⟩

/-- An empty collection fails for its type arguments alone. -/
theorem emptyCollection_eq_map :
    f.emptyCollection useExplicit =
      (fun arguments => .create (f.collection arguments) [] true) <$>
        f.elementTypes useExplicit := by
  unfold emptyCollection
  cases f.elementTypes useExplicit with
  | error r => rfl
  | ok arguments =>
    have hbuild : { type := some (.ofReference (f.collection arguments))
                    isDiamond := true : CreateDraft }.build
        = .ok (.create (f.collection arguments) [] true) :=
      CreateDraft.build_eq_ok_iff.2 ⟨_, [], rfl, rfl, isClass_collection arguments, rfl⟩
    exact hbuild

theorem elementTypes_true :
    f.elementTypes true =
      if f.typeArguments.length < f.arity then f.unsupported
      else .ok (f.typeArguments.take f.arity) := rfl

/-- The collection inherits from the classes of collections of its kind. -/
theorem accepts_collection {r : Reference}
    (h : r.fullName ∈ if f.isMap then ["java.util.Map", "java.util.HashMap"]
      else ["java.util.List", "java.util.Collection", "java.util.ArrayList"])
    (arguments : List Reference) :
    (JavaType.ofReference r).accepts (.ofReference (f.collection arguments)) = true := by
  refine Reference.accepts_iff.2 (.inr (.inr ?_))
  rw [collection, Reference.isSubtypeOf_withArguments]
  generalize r.fullName = name at h
  cases hmap : f.isMap with
  | true =>
    have hall : ∀ name ∈ ["java.util.Map", "java.util.HashMap"],
        (Reference.wellKnown ClassName.hashMap).isSubtypeOf name = true := by decide
    exact hall name (by simpa [hmap] using h)
  | false =>
    have hall : ∀ name ∈ ["java.util.List", "java.util.Collection", "java.util.ArrayList"],
        (Reference.wellKnown ClassName.arrayList).isSubtypeOf name = true := by decide
    exact hall name (by simpa [hmap] using h)

/-! ## Single values -/

/-- A stand-in that is returned by a method of the class of the field is of this class. -/
theorem type_of_zeroConstant (h : f.zeroConstant = .ok e) : e.type = f.type ∧ f.type.IsClass := by
  simp only [zeroConstant, bind_eq_ok_iff] at h
  obtain ⟨zero, -, h⟩ := h
  exact ⟨CallDraft.type_of_build h, (CallDraft.build_eq_ok_iff.1 h).1.receiver.owner f.type rfl⟩

theorem type_of_emptyMessage (h : f.emptyMessage = .ok e) : e.type = f.type ∧ f.type.IsClass := by
  simp only [emptyMessage, bind_eq_ok_iff] at h
  obtain ⟨builderType, -, newBuilder, hnew, h⟩ := h
  exact ⟨CallDraft.type_of_build h, (CallDraft.build_eq_ok_iff.1 hnew).1.receiver.owner f.type rfl⟩

/-- A class is accepted where one with the same full name is wanted. -/
theorem accepts_of_isExactly {t : JavaType} {r : Reference}
    (h : t.isClassThat (·.isExactly r.fullName) = true) : t.accepts (.ofReference r) = true := by
  obtain ⟨target, rfl, hname⟩ := JavaType.exists_reference_of_isClassThat h
  exact Reference.accepts_iff.2
    (.inr (.inr (Reference.isSubtypeOf_of_fullName_eq (Reference.fullName_of_isExactly hname))))

theorem accepts_of_scalar (h : f.scalar = .ok e) : f.type.accepts e.type = true := by
  rcases isString_or_mem_numbers_or_isUnsupported f.type with
    hstring | ⟨p, hp, htype⟩ | hboolean | hbytes | hunsupported
  · rw [scalar_of_isString hstring] at h
    cases h
    exact accepts_of_isExactly (r := .wellKnown .string) hstring
  · rw [scalar_of_number htype hp, ofString_codeText hp] at h
    obtain ⟨l, hl, rfl⟩ := map_eq_ok_iff.1 h
    split at hl
    · cases hl
      rw [htype]
      exact p.widensTo_refl
    · cases hl
  · rw [scalar_of_boolean hboolean] at h
    cases h
    rw [hboolean]
    rfl
  · rw [scalar_of_byteString hbytes] at h
    cases h
    refine accepts_of_isExactly (r := .wellKnown .byteString) ?_
    rw [(JavaType.alike_of_beq hbytes).isClassThat_isExactly_eq]
    decide
  · rw [scalar_of_isUnsupported hunsupported] at h
    cases h

/-- A single field accepts its stand-in. -/
theorem accepts_of_placeholder (hsingle : f.isRepeated = false)
    (h : f.placeholder useExplicit = .ok e) : f.type.accepts e.type = true := by
  rw [placeholder, hsingle, if_neg Bool.false_ne_true] at h
  split at h
  · obtain ⟨htype, hclass⟩ := type_of_zeroConstant h
    rw [htype, JavaType.accepts_self hclass.isVoid]
  · split at h
    · obtain ⟨htype, hclass⟩ := type_of_emptyMessage h
      rw [htype, JavaType.accepts_self hclass.isVoid]
    · exact accepts_of_scalar h

/-! ## All stand-ins -/

theorem placeholder_of_isRepeated (h : f.isRepeated = true) :
    f.placeholder useExplicit = f.emptyCollection useExplicit := by
  rw [placeholder, if_pos h]

/-- A stand-in has a value. -/
theorem isVoid_of_placeholder (h : f.placeholder useExplicit = .ok e) : e.type.isVoid = false := by
  cases hrepeated : f.isRepeated with
  | false => exact (JavaType.isVoid_of_accepts (accepts_of_placeholder hrepeated h)).2
  | true =>
    rw [placeholder_of_isRepeated hrepeated, emptyCollection_eq_map] at h
    obtain ⟨arguments, -, rfl⟩ := map_eq_ok_iff.1 h
    rfl

theorem placeholder_explicit (hrepeated : f.isRepeated = true) :
    f.placeholder true =
      if f.typeArguments.length < f.arity then f.unsupported
      else .ok (.create (f.collection (f.typeArguments.take f.arity)) [] true) := by
  rw [placeholder_of_isRepeated hrepeated, emptyCollection_eq_map, elementTypes_true]
  split <;> rfl

/-- Every field that is single accepts its stand-in, and so does every field of collections whose
class is a list or a map of the usual kinds. With explicit type arguments, the stand-in of a field
of collections is a new list or map that has the first one or two type arguments of the field, and
there is one exactly if the field has as many; otherwise the field is refused for its name and
type. -/
theorem placeholder_fits (f : Field) (useExplicit : Bool) :
    (∀ e, f.placeholder useExplicit = .ok e →
      (f.isRepeated = false → f.type.accepts e.type = true) ∧
      (f.isRepeated = true → ∀ r, f.type = .ofReference r →
        (r.fullName ∈ if f.isMap then ["java.util.Map", "java.util.HashMap"]
          else ["java.util.List", "java.util.Collection", "java.util.ArrayList"]) →
        f.type.accepts e.type = true)) ∧
    (f.isRepeated = true → useExplicit = true →
      (∀ e, f.placeholder useExplicit = .ok e → ∃ r rest, e = .create r [] true ∧
        r.fullName = (if f.isMap then "java.util.HashMap" else "java.util.ArrayList") ∧
        f.typeArguments = r.arguments ++ rest ∧ r.arguments.length = f.arity) ∧
      ((∃ e, f.placeholder useExplicit = .ok e) ↔ f.arity ≤ f.typeArguments.length) ∧
      ∀ reason, f.placeholder useExplicit = .error reason ↔
        f.typeArguments.length < f.arity ∧
          reason = ⟨node, .unsupportedField f.name f.type.display⟩) := by
  refine ⟨fun e he => ⟨fun hsingle => accepts_of_placeholder hsingle he, ?_⟩, ?_⟩
  · intro hrepeated r hr hname
    rw [placeholder_of_isRepeated hrepeated, emptyCollection_eq_map] at he
    obtain ⟨arguments, -, rfl⟩ := map_eq_ok_iff.1 he
    rw [hr]
    exact accepts_collection hname arguments
  · rintro hrepeated rfl
    rw [placeholder_explicit hrepeated]
    split
    · next hfew =>
      refine ⟨nofun, iff_of_false nofun (Nat.not_le.2 hfew), fun reason => ?_⟩
      rw [unsupported, Except.error.injEq, eq_comm, and_iff_right hfew]
    · next hmany =>
      refine ⟨?_, iff_of_true ⟨_, rfl⟩ (Nat.not_lt.1 hmany), fun reason => ?_⟩
      · rintro _ ⟨⟩
        refine ⟨_, f.typeArguments.drop f.arity, rfl, fullName_collection _, ?_, ?_⟩
        · rw [collection, Reference.arguments_withArguments, List.take_append_drop]
        · rw [collection, Reference.arguments_withArguments, List.length_take]
          exact Nat.min_eq_left (Nat.not_lt.1 hmany)
      · exact iff_of_false nofun fun h => hmany h.1

/-- A field that maps texts to numbers is filled with a new map of these, which it accepts. One
without type arguments is refused. -/
theorem placeholder_fits_map :
    let map (arguments : List Reference) : Reference :=
      .compiled (.javaUtil { text := "Map" }) arguments [] false
    let string := Reference.wellKnown .string
    let integer := Reference.wellKnown (.boxed .int)
    let labels : Field :=
      { name := "labels", type := .ofReference (map [string, integer]), isRepeated := true,
        isMap := true }
    let raw : Field := { labels with type := .ofReference (map []) }
    (∃ r, labels.placeholder true = .ok (.create r [] true) ∧ r.arguments = [string, integer] ∧
      labels.type.accepts (.ofReference r) = true) ∧
    raw.placeholder true = .error ⟨node, .unsupportedField "labels" "Map"⟩ := by
  intro map string integer labels raw
  obtain ⟨hfits, hexplicit⟩ := placeholder_fits labels true
  obtain ⟨hvalue, hexists, -⟩ := hexplicit rfl rfl
  obtain ⟨-, -, hrefused⟩ := (placeholder_fits raw true).2 rfl rfl
  obtain ⟨e, he⟩ := hexists.2 (by decide)
  obtain ⟨r, rest, rfl, -, harguments, hlength⟩ := hvalue e he
  refine ⟨⟨r, he, ?_, (hfits _ he).2 rfl _ rfl (by decide)⟩, (hrefused _).2 ⟨by decide, ?_⟩⟩
  · have hall : r.arguments ++ rest = [string, integer] ++ [] := harguments.symm
    exact List.append_inj_left hall hlength
  · rfl

end Field

end JavaSyntax
