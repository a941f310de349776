import JavaSyntax.ClassDefinition.Members
import JavaSyntax.Proofs.Construction.Signatures

/-!
# Which members can stand together

The rules for the body of a class, without the order in which they are looked at: its statements
are members, its fields have different names, no two of its methods clash, and an abstract method
stands in an abstract class only. The loops that look for repetitions are summed up by `Fresh`.
-/

set_option autoImplicit false

namespace JavaSyntax

/-! ## Names that are declared once -/

/-- No name of a list is declared before it, in the list or elsewhere. -/
def Fresh (declared names : List String) : Prop :=
  names.Nodup ∧ ∀ name ∈ names, name ∉ declared

theorem fresh_nil (declared : List String) : Fresh declared [] := ⟨List.nodup_nil, by simp⟩

/-- Passing over a name declares it for the rest. -/
theorem fresh_cons_iff {declared names : List String} {name : String} :
    Fresh declared (name :: names) ↔ name ∉ declared ∧ Fresh (name :: declared) names := by
  constructor
  · rintro ⟨hnodup, hfresh⟩
    obtain ⟨hname, hnames⟩ := List.forall_mem_cons.1 hfresh
    obtain ⟨hnotin, hnodup⟩ := List.nodup_cons.1 hnodup
    refine ⟨hname, hnodup, fun other hother => ?_⟩
    rw [List.mem_cons, not_or]
    exact ⟨fun heq => hnotin (heq ▸ hother), hnames other hother⟩
  · rintro ⟨hname, hnodup, hfresh⟩
    refine ⟨List.nodup_cons.2 ⟨fun hmem => ?_, hnodup⟩, List.forall_mem_cons.2 ⟨hname, ?_⟩⟩
    · exact hfresh name hmem List.mem_cons_self
    · exact fun other hother hmem => hfresh other hother (List.mem_cons_of_mem _ hmem)

/-! ## Fields -/

/-- The statements that may stand in the body of a class. -/
inductive Statement.IsMember : Statement → Prop
  | field (d : Declaration) : IsMember (.expression (.var (.declaration d)))
  | initializedField (d : Declaration) (source : Expr) :
    IsMember (.expression (.assignment (.declaration d) source))
  | block (isStatic : Bool) (body : List Statement) : IsMember (.block isStatic body)
  | comment (c : Comment) : IsMember (.comment c)
  | emptyLine : IsMember .emptyLine

/-- The field that a statement declares. -/
def Statement.field? : Statement → Option Declaration
  | expression e => e.field?
  | _ => none

namespace Members

theorem fieldOf_eq_ok_iff {node : String} {s : Statement} {field : Option Declaration} :
    fieldOf node s = .ok field ↔ s.IsMember ∧ s.field? = field := by
  constructor
  · intro h
    cases s with
    | expression e =>
      simp only [fieldOf] at h
      split at h
      · next d hd =>
        cases h
        refine ⟨?_, hd⟩
        cases e with
        | var v =>
          cases v with
          | declaration d => exact .field d
          | use v receiver => cases hd
        | assignment target source =>
          cases target with
          | declaration d => exact .initializedField d source
          | use v receiver => cases hd
        | _ => cases hd
      · cases h
    | block isStatic body =>
      cases h
      exact ⟨.block isStatic body, rfl⟩
    | comment c =>
      cases h
      exact ⟨.comment c, rfl⟩
    | emptyLine =>
      cases h
      exact ⟨.emptyLine, rfl⟩
    | _ => cases h
  · rintro ⟨hmember, rfl⟩
    cases hmember <;> rfl

theorem checkFields_eq_ok_iff {node : String} {declared : List String} {ss : List Statement} :
    checkFields node declared ss = .ok () ↔
      (∀ s ∈ ss, s.IsMember) ∧ Fresh declared ((ss.filterMap Statement.field?).map (·.name)) := by
  induction ss generalizing declared with
  | nil => simp [checkFields, fresh_nil]
  | cons s ss ih =>
    simp only [checkFields, bind_eq_ok_iff, fieldOf_eq_ok_iff, List.forall_mem_cons]
    cases hfield : s.field? with
    | none =>
      rw [List.filterMap_cons_none hfield]
      simp [ih, and_assoc]
    | some d =>
      rw [List.filterMap_cons_some hfield, List.map_cons, fresh_cons_iff]
      by_cases hd : d.name ∈ declared
      · simp [hd]
      · simp [hd, ih, and_assoc]

/-! ## Methods -/

theorem checkMethods_eq_ok_iff {node : String} {isAbstract : Bool} {declared : List String}
    {ms : List Method} :
    checkMethods node isAbstract declared ms = .ok () ↔
      Fresh declared (ms.map (·.signature)) ∧
        (isAbstract = false → ∀ m ∈ ms, m.header.modifiers.isAbstract = false) := by
  induction ms generalizing declared with
  | nil => simp [checkMethods, fresh_nil]
  | cons m ms ih =>
    rw [List.map_cons, fresh_cons_iff, checkMethods]
    by_cases hm : m.signature ∈ declared
    · simp [hm]
    · simp only [hm, reduceIte, bind_eq_ok_iff, exists_unit_iff, require_eq_ok_iff, ih,
        not_false_eq_true, true_and, List.forall_mem_cons]
      cases isAbstract <;> simp [and_left_comm]

theorem nodup_signatures_iff {ms : List Method} :
    (ms.map (·.signature)).Nodup ↔ ms.Pairwise fun m m' => ¬ m.Clashes m' := by
  rw [List.Nodup, List.pairwise_map]
  simp only [ne_eq, Method.signature_eq_iff]

/-- The rules for the body of a class. -/
structure Lawful (isAbstract : Bool) (statements : List Statement) (methods : List Method) :
    Prop where
  members : ∀ s ∈ statements, s.IsMember
  fields : ((statements.filterMap Statement.field?).map (·.name)).Nodup
  signatures : methods.Pairwise fun m m' => ¬ m.Clashes m'
  abstract : isAbstract = false → ∀ m ∈ methods, m.header.modifiers.isAbstract = false

/-- A body is accepted exactly if it is lawful. -/
theorem check_eq_ok_iff {node : String} {isAbstract : Bool} {statements : List Statement}
    {methods : List Method} :
    check node isAbstract statements methods = .ok () ↔ Lawful isAbstract statements methods := by
  simp only [check, bind_eq_ok_iff, exists_unit_iff, checkFields_eq_ok_iff,
    checkMethods_eq_ok_iff, Fresh, nodup_signatures_iff, List.not_mem_nil, not_false_eq_true,
    implies_true, and_true]
  constructor
  · rintro ⟨⟨hmembers, hfields⟩, hsignatures, habstract⟩
    exact ⟨hmembers, hfields, hsignatures, habstract⟩
  · rintro ⟨hmembers, hfields, hsignatures, habstract⟩
    exact ⟨⟨hmembers, hfields⟩, hsignatures, habstract⟩

end Members

end JavaSyntax
