import JavaSyntax.Expr.AnonymousClass
import JavaSyntax.Proofs.Types.Acceptance
import JavaSyntax.Proofs.Types.Comparison

/-!
# Which expressions can be constructed

For each form of expression, what its construction accepts and what it makes of it. A draft of a
variable or call is accepted exactly if it is lawful, and what is built has this draft as its own:
nothing that was given is lost or changed, except that a call of which no type is given returns
nothing.
-/

set_option autoImplicit false

namespace JavaSyntax

/-! ## Classes and receivers -/

namespace JavaType

/-- Whether this is the type of the objects of one class, of which `null` is none. -/
def IsClass (t : JavaType) : Prop := t.isReference = true ∧ t.isArray = false ∧ t.isNull = false

theorem isClass_iff {t : JavaType} : t.IsClass ↔ ∃ r, t.class? = some r := by
  rcases t with _ | (_ | r) | _
  · simp [IsClass, isReference, class?, singleReference?]
  · simp [IsClass, isReference, class?, singleReference?]
  · cases h : r.isNull <;>
      simp [IsClass, isReference, isArray, isNull, isClassThat, class?, singleReference?, h]
  · simp [IsClass, isArray, class?, singleReference?]

/-- The class that is found in a type is the one whose objects the type is of. -/
theorem class?_eq_some_iff_isClass {t : JavaType} {r : Reference} :
    t.class? = some r ↔ t = ofReference r ∧ (ofReference r).IsClass := by
  constructor
  · intro h
    obtain ⟨rfl, -⟩ := class?_eq_some_iff.1 h
    exact ⟨rfl, isClass_iff.2 ⟨r, h⟩⟩
  · rintro ⟨rfl, hclass⟩
    obtain ⟨s, hs⟩ := isClass_iff.1 hclass
    obtain ⟨heq, -⟩ := class?_eq_some_iff.1 hs
    cases heq
    exact hs

theorem IsClass.exists_eq {t : JavaType} (h : t.IsClass) : ∃ r, t = ofReference r := by
  obtain ⟨r, hr⟩ := isClass_iff.1 h
  exact ⟨r, (class?_eq_some_iff_isClass.1 hr).1⟩

/-- Whatever is neither nothing nor primitive is an object. -/
theorem isReference_iff {t : JavaType} :
    t.isReference = true ↔ t.isVoid = false ∧ t.isPrimitive = false := by
  rcases t with _ | (_ | _) | _ <;> simp [isReference, isVoid, isPrimitive]

end JavaType

namespace Receiver

/-- What may stand before a dot: at most one of an expression with members and a class. -/
structure Allowed (object : Option Expr) (owner : Option JavaType) : Prop where
  unique : object = none ∨ owner = none
  object : ∀ e ∈ object, e.type.isVoid = false ∧ e.type.isPrimitive = false
  owner : ∀ type ∈ owner, type.IsClass

theorem not_both_iff {object : Option Expr} {owner : Option JavaType} :
    (!(object.isSome && owner.isSome)) = true ↔ object = none ∨ owner = none := by
  cases object <;> cases owner <;> simp

theorem ofParts_eq_ok_iff {node : String} {object : Option Expr} {owner : Option JavaType}
    {receiver : Receiver} (hunique : object = none ∨ owner = none) :
    ofParts node object owner = .ok receiver ↔
      Allowed object owner ∧ receiver.object? = object ∧ receiver.ownerType? = owner := by
  constructor
  · intro h
    rcases object with _ | e
    · rcases owner with _ | type
      · cases h
        exact ⟨⟨hunique, by simp, by simp⟩, rfl, rfl⟩
      · simp only [ofParts, bind_eq_ok_iff, checkClass_eq_ok_iff,
          JavaType.class?_eq_some_iff_isClass, pure_eq_ok_iff] at h
        obtain ⟨r, ⟨rfl, hclass⟩, rfl⟩ := h
        exact ⟨⟨hunique, by simp, by simpa using hclass⟩, rfl, rfl⟩
    · simp only [ofParts] at h
      split at h
      · next hreference =>
        cases h
        obtain rfl := hunique.resolve_left (Option.some_ne_none e)
        exact ⟨⟨hunique, by simpa using JavaType.isReference_iff.1 hreference, by simp⟩, rfl, rfl⟩
      · cases h
  · rintro ⟨hallowed, rfl, rfl⟩
    cases receiver with
    | implicit => rfl
    | object e =>
      have hreference := JavaType.isReference_iff.2 (hallowed.object e rfl)
      simp [ofParts, object?, hreference]
    | owner r =>
      simp only [ofParts, object?, ownerType?, bind_eq_ok_iff, checkClass_eq_ok_iff,
        JavaType.class?_eq_some_iff_isClass, pure_eq_ok_iff]
      exact ⟨r, ⟨rfl, hallowed.owner _ rfl⟩, rfl⟩

end Receiver

/-! ## Variables -/

namespace VariableDraft

/-- The rules for a variable expression. -/
structure Lawful (draft : VariableDraft) : Prop where
  receiver : Receiver.Allowed draft.object draft.owner
  /-- A declaration is not qualified. -/
  declaration : draft.isDeclaration = true → draft.object = none ∧ draft.owner = none
  /-- A use has nothing that belongs to a declaration. -/
  use : draft.isDeclaration = false →
    draft.access = .package ∧ draft.isStatic = false ∧ draft.isFinal = false ∧
      draft.annotations = []

/-- A variable expression is built exactly from its own draft, if this is lawful. -/
theorem build_eq_ok_iff {draft : VariableDraft} {v : VariableExpr} :
    draft.build = .ok v ↔ draft.Lawful ∧ v.toDraft = draft := by
  constructor
  · intro h
    obtain ⟨target, isDeclaration, access, isStatic, isFinal, annotations, object, owner⟩ := draft
    simp only [build, bind_eq_ok_iff, exists_unit_iff, given_eq_ok_iff, require_eq_ok_iff,
      Receiver.not_both_iff] at h
    obtain ⟨v, rfl, hunique, h⟩ := h
    split at h
    · next hdeclaration =>
      simp only [buildDeclaration, isQualified, bind_eq_ok_iff, exists_unit_iff, require_eq_ok_iff,
        pure_eq_ok_iff] at h
      obtain ⟨hnone, rfl⟩ := h
      obtain ⟨rfl, rfl⟩ : object = none ∧ owner = none := by simpa using hnone
      cases hdeclaration
      exact ⟨⟨⟨hunique, by simp, by simp⟩, fun _ => ⟨rfl, rfl⟩, by simp⟩, rfl⟩
    · next huse =>
      simp only [buildUse, exists_unit_iff, bind_eq_ok_iff, require_eq_ok_iff,
        pure_eq_ok_iff] at h
      obtain ⟨haccess, hmodifiers, hannotations, receiver, hreceiver, rfl⟩ := h
      obtain ⟨hallowed, rfl, rfl⟩ := (Receiver.ofParts_eq_ok_iff hunique).1 hreceiver
      obtain rfl : isDeclaration = false := by simpa using huse
      obtain rfl : access = .package := by simpa using haccess
      obtain ⟨rfl, rfl⟩ : isStatic = false ∧ isFinal = false := by simpa using hmodifiers
      obtain rfl : annotations = [] := by simpa using hannotations
      exact ⟨⟨hallowed, by simp, fun _ => ⟨rfl, rfl, rfl, rfl⟩⟩, rfl⟩
  · rintro ⟨hlawful, rfl⟩
    cases v with
    | declaration d => rfl
    | use v receiver =>
      have hreceiver : Receiver.ofParts node receiver.object? receiver.ownerType? = .ok receiver :=
        (Receiver.ofParts_eq_ok_iff hlawful.receiver.unique).2 ⟨hlawful.receiver, rfl, rfl⟩
      have huse : buildUse (VariableExpr.use v receiver).toDraft v = .ok (.use v receiver) := by
        simp only [buildUse, bind_eq_ok_iff, exists_unit_iff, require_eq_ok_iff, pure_eq_ok_iff]
        exact ⟨rfl, rfl, rfl, receiver, hreceiver, rfl⟩
      simp only [build, bind_eq_ok_iff, exists_unit_iff, given_eq_ok_iff, require_eq_ok_iff,
        Receiver.not_both_iff]
      exact ⟨v, rfl, hlawful.receiver.unique, huse⟩

theorem lawful_toDraft {draft : VariableDraft} {v : VariableExpr} (h : draft.build = .ok v) :
    v.toDraft.Lawful := by
  obtain ⟨hlawful, rfl⟩ := build_eq_ok_iff.1 h
  exact hlawful

end VariableDraft

theorem VariableExpr.build_toDraft_ofVariable (v : Variable) :
    (ofVariable v).toDraft.build = .ok (ofVariable v) := rfl

theorem VariableExpr.build_toDraft_declare (v : Variable) :
    (declare v).toDraft.build = .ok (declare v) := rfl

/-! ## Calls -/

namespace CallDraft

/-- The rules for a call. -/
structure Lawful (draft : CallDraft) : Prop where
  receiver : Receiver.Allowed draft.object draft.owner
  /-- Type arguments are written after a dot. -/
  typeArguments : draft.typeArguments ≠ [] → draft.object ≠ none ∨ draft.owner ≠ none
  /-- Every argument is there and has a value. -/
  arguments : ∀ argument ∈ draft.arguments, ∃ e ∈ argument, e.type.isVoid = false

/-- The draft with the type that a call returns of which none is given. -/
def completed (draft : CallDraft) : CallDraft :=
  { draft with returnType := some (draft.returnType.getD .void) }

theorem checkArguments_eq_ok_iff {arguments : List Expr} :
    checkArguments arguments = .ok () ↔ ∀ e ∈ arguments, e.type.isVoid = false := by
  unfold checkArguments
  cases h : arguments.find? (·.type.isVoid) with
  | none => simpa using h
  | some e =>
    have hvoid := List.find?_some h
    have hmem := List.mem_of_find?_eq_some h
    simp only [reject, reduceCtorEq, false_iff, not_forall]
    exact ⟨e, hmem, by simp [hvoid]⟩

/-- A call is built exactly from its own draft, if this is lawful. -/
theorem build_eq_ok_iff {draft : CallDraft} {e : Expr} :
    draft.build = .ok e ↔ draft.Lawful ∧ e.toCallDraft? = some draft.completed := by
  obtain ⟨text, object, owner, arguments, typeArguments, returnType⟩ := draft
  simp only [build, isQualified, bind_eq_ok_iff, exists_unit_iff, given_eq_ok_iff,
    require_eq_ok_iff, Receiver.not_both_iff, withoutGaps_eq_ok_iff, checkArguments_eq_ok_iff,
    Identifier.ofString_eq_ok_iff, pure_eq_ok_iff]
  constructor
  · rintro ⟨_, rfl, name, rfl, hunique, receiver, hreceiver, hgenerics, arguments, rfl, hvoid, rfl⟩
    obtain ⟨hallowed, rfl, rfl⟩ := (Receiver.ofParts_eq_ok_iff hunique).1 hreceiver
    refine ⟨⟨hallowed, ?_, by simpa using hvoid⟩, rfl⟩
    intro hne
    simpa [hne, Option.isSome_iff_ne_none] using hgenerics
  · rintro ⟨hlawful, he⟩
    cases e with
    | call name receiver gs as type =>
      simp only [Expr.toCallDraft?, completed, Option.some.injEq, CallDraft.mk.injEq] at he
      obtain ⟨rfl, rfl, rfl, rfl, rfl, rfl⟩ := he
      have hreceiver : Receiver.ofParts node receiver.object? receiver.ownerType? = .ok receiver :=
        (Receiver.ofParts_eq_ok_iff hlawful.receiver.unique).2 ⟨hlawful.receiver, rfl, rfl⟩
      have hgenerics : (gs.isEmpty || (receiver.object?.isSome || receiver.ownerType?.isSome))
          = true := by
        cases gs with
        | nil => rfl
        | cons g gs =>
          simpa [Option.isSome_iff_ne_none] using hlawful.typeArguments (List.cons_ne_nil g gs)
      have hvoid : ∀ e ∈ as, e.type.isVoid = false := by simpa using hlawful.arguments
      exact ⟨_, rfl, name, rfl, hlawful.receiver.unique, receiver, hreceiver, hgenerics, as, rfl,
        hvoid, rfl⟩
    | _ => cases he

/-- Giving a call the return type that it has anyway changes nothing. -/
theorem lawful_completed {draft : CallDraft} : draft.completed.Lawful ↔ draft.Lawful :=
  ⟨fun ⟨hr, ht, ha⟩ => ⟨hr, ht, ha⟩, fun ⟨hr, ht, ha⟩ => ⟨hr, ht, ha⟩⟩

end CallDraft

/-! ## Values and operations -/

namespace Value

theorem requireClass_eq_ok_iff {node : String} {t : JavaType} :
    requireClass node t = .ok () ↔ t.IsClass := by
  rw [requireClass, require_eq_ok_iff]
  simp [JavaType.IsClass, and_assoc]

theorem ofThis_eq_ok_iff {t : JavaType} {v : Value} :
    ofThis t = .ok v ↔ t.IsClass ∧ .this t = v := by
  simp only [ofThis, bind_eq_ok_iff, exists_unit_iff, requireClass_eq_ok_iff, pure_eq_ok_iff]

theorem ofSuper_eq_ok_iff {t : JavaType} {v : Value} :
    ofSuper t = .ok v ↔ t.IsClass ∧ .super t = v := by
  simp only [ofSuper, bind_eq_ok_iff, exists_unit_iff, requireClass_eq_ok_iff, pure_eq_ok_iff]

theorem ofConstant_eq_ok_iff {t : JavaType} {name : String} {v : Value} :
    ofConstant t name = .ok v ↔
      t.IsClass ∧ ∃ n, Identifier.ofString name = .ok n ∧ .constant t n = v := by
  simp only [ofConstant, bind_eq_ok_iff, exists_unit_iff, requireClass_eq_ok_iff, pure_eq_ok_iff]

end Value

theorem Assignment.make_eq_ok_iff {target : VariableExpr} {source : Expr} {a : Assignment} :
    make target source = .ok a ↔
      target.type.accepts source.type = true ∧ { target := target, source := source } = a := by
  unfold make
  split <;> simp_all [mismatch]

namespace Expr

/-- A value is taken as one of another type if both have values and truth values stay apart. -/
theorem mkCast_eq_ok_iff {type : JavaType} {operand e : Expr} :
    mkCast type operand = .ok e ↔
      type.isVoid = false ∧ operand.type.isVoid = false ∧
        (operand.type.isPrimitive = true → type.isPrimitive = true →
          operand.type.isBoolean = type.isBoolean) ∧
        .cast type operand = e := by
  simp only [mkCast]
  split
  · next hvoid =>
    rw [Bool.or_eq_true] at hvoid
    simp only [reject, reduceCtorEq, false_iff]
    rintro ⟨htype, hoperand, -⟩
    simp [htype, hoperand] at hvoid
  · next hvoid =>
    rw [Bool.or_eq_true, not_or, Bool.not_eq_true, Bool.not_eq_true] at hvoid
    split
    · next hmixed =>
      simp only [Bool.and_eq_true, bne_iff_ne, ne_eq] at hmixed
      simp only [mismatch, reduceCtorEq, false_iff]
      rintro ⟨-, -, hsame, -⟩
      exact hmixed.2 (hsame hmixed.1.1 hmixed.1.2)
    · next hsame =>
      simpa [hvoid] using fun _ => hsame

theorem mkInstanceOf_eq_ok_iff {operand e : Expr} {type : JavaType} :
    mkInstanceOf operand type = .ok e ↔
      operand.type.isReference = true ∧ type.isReference = true ∧ type.isNull = false ∧
        .instanceOf operand type = e := by
  simp only [mkInstanceOf, bind_eq_ok_iff, exists_unit_iff, require_eq_ok_iff, pure_eq_ok_iff,
    Bool.and_eq_true, Bool.not_eq_true', and_assoc]

theorem mkComparison_eq_ok_iff {operator : Comparison} {left right e : Expr} :
    mkComparison operator left right = .ok e ↔
      (left.type.isVoid = false ∧ right.type.isVoid = false ∧
        JavaType.Comparable left.type right.type) ∧ .comparison operator left right = e := by
  simp only [mkComparison, bind_eq_ok_iff, exists_unit_iff, checkComparable_eq_ok_iff,
    pure_eq_ok_iff]

end Expr

/-! ## Objects and other constructors -/

theorem CreateDraft.build_eq_ok_iff {draft : CreateDraft} {e : Expr} :
    draft.build = .ok e ↔
      ∃ type arguments, e = .create type arguments draft.isDiamond ∧
        draft.type = some (.ofReference type) ∧ (JavaType.ofReference type).IsClass ∧
        draft.arguments = arguments.map some := by
  simp only [build, bind_eq_ok_iff, given_eq_ok_iff, checkClass_eq_ok_iff,
    JavaType.class?_eq_some_iff_isClass, withoutGaps_eq_ok_iff, pure_eq_ok_iff]
  constructor
  · rintro ⟨_, ht, type, ⟨rfl, hclass⟩, arguments, ha, rfl⟩
    exact ⟨type, arguments, rfl, ht, hclass, ha⟩
  · rintro ⟨type, arguments, rfl, ht, hclass, ha⟩
    exact ⟨_, ht, type, ⟨rfl, hclass⟩, arguments, ha, rfl⟩

theorem Expr.mkDelegation_eq_ok_iff {target : Delegate} {t : JavaType}
    {arguments : List (Option Expr)} {e : Expr} :
    mkDelegation target t arguments = .ok e ↔
      ∃ type present, e = .delegation target type present ∧ t = .ofReference type ∧ t.IsClass ∧
        arguments = present.map some := by
  simp only [mkDelegation, bind_eq_ok_iff, checkClass_eq_ok_iff,
    JavaType.class?_eq_some_iff_isClass, withoutGaps_eq_ok_iff, pure_eq_ok_iff]
  constructor
  · rintro ⟨type, ⟨rfl, hclass⟩, present, ha, rfl⟩
    exact ⟨type, present, rfl, rfl, hclass, ha⟩
  · rintro ⟨type, present, rfl, rfl, hclass, ha⟩
    exact ⟨type, ⟨rfl, hclass⟩, present, ha, rfl⟩

theorem AnonymousClassDraft.of_build {draft : AnonymousClassDraft} {e : Expr}
    (h : draft.build = .ok e) :
    ∃ type statements methods, e = .anonymousClass type statements methods ∧
      draft.type = some (.ofReference type) ∧ (JavaType.ofReference type).IsClass ∧
      draft.statements = statements.map some ∧ draft.methods = methods.map some := by
  simp only [build, bind_eq_ok_iff, exists_unit_iff, given_eq_ok_iff, checkClass_eq_ok_iff,
    JavaType.class?_eq_some_iff_isClass, withoutGaps_eq_ok_iff, pure_eq_ok_iff] at h
  obtain ⟨_, ht, type, ⟨rfl, hclass⟩, statements, hs, methods, hm, -, -, rfl⟩ := h
  exact ⟨type, statements, methods, rfl, ht, hclass, hs, hm⟩

end JavaSyntax
