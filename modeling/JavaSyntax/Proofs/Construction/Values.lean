import JavaSyntax.Proofs.Construction.Rules

/-!
# Where a value is needed

A node takes the values of some of the expressions that it holds. An expression without a value is
refused in nearly all of these places: as a receiver and argument of a call, as what is assigned or
converted or compared, in a condition and in a branch. Each construction sees to that by a check of
its own. Two of them have none, and take any expression as an argument: the creation of an object
and the call of another constructor.
-/

set_option autoImplicit false

namespace JavaSyntax

/-! ## Uses of values -/

/-- What a node takes the value of an expression for. -/
inductive ValuePosition where
  | receiver
  | callArgument
  | creationArgument
  | delegationArgument
  | assigned
  | condition
  | branch
  | castOperand
  | testOperand
  | comparisonOperand
  deriving DecidableEq, Repr

/-- The values that are taken before a dot. -/
def Receiver.uses (receiver : Receiver) : List (ValuePosition × Expr) :=
  receiver.object?.toList.map (.receiver, ·)

/-- The values that a variable expression takes. -/
def VariableExpr.uses : VariableExpr → List (ValuePosition × Expr)
  | declaration _ => []
  | use _ receiver => receiver.uses

/-- The values that an expression takes. A variable or an assignment is a node of its own, which
takes its values itself. -/
def Expr.uses : Expr → List (ValuePosition × Expr)
  | value _ | var _ | assignment .. | anonymousClass .. => []
  | ternary condition whenTrue whenFalse =>
    [(.condition, condition), (.branch, whenTrue), (.branch, whenFalse)]
  | call _ receiver _ arguments _ => receiver.uses ++ arguments.map (.callArgument, ·)
  | create _ arguments _ => arguments.map (.creationArgument, ·)
  | delegation _ _ arguments => arguments.map (.delegationArgument, ·)
  | cast _ operand => [(.castOperand, operand)]
  | instanceOf operand _ => [(.testOperand, operand)]
  | comparison _ left right => [(.comparisonOperand, left), (.comparisonOperand, right)]

/-- The values that a node takes of the expressions that it holds directly. -/
def Node.uses : Node → List (ValuePosition × Expr)
  | var v => v.uses
  | assignment a => [(.assigned, a.source)]
  | expression e => e.uses
  | statement _ | method _ | definition _ => []

/-! ## Rules that ask for values -/

theorem JavaType.isVoid_of_isBoolean {t : JavaType} (h : t.isBoolean = true) :
    t.isVoid = false := by
  cases t with
  | void => cases h
  | single | array => rfl

variable {unchecked : Bool} {position : ValuePosition} {e : Expr}

theorem Receiver.Allowed.isVoid_of_mem_uses {receiver : Receiver} {owner : Option JavaType}
    (h : Allowed receiver.object? owner) (he : (position, e) ∈ receiver.uses) :
    e.type.isVoid = false := by
  simp only [uses, List.mem_map, Option.mem_toList, Prod.mk.injEq] at he
  obtain ⟨object, hobject, -, rfl⟩ := he
  exact (h.object object hobject).1

theorem VariableDraft.Lawful.isVoid_of_mem_uses {v : VariableExpr} (h : v.toDraft.Lawful)
    (he : (position, e) ∈ v.uses) : e.type.isVoid = false := by
  cases v with
  | declaration d => cases he
  | use v receiver => exact h.receiver.isVoid_of_mem_uses he

theorem CallDraft.Lawful.isVoid_of_mem_uses {caller : Expr} {draft : CallDraft} (h : draft.Lawful)
    (hdraft : caller.toCallDraft? = some draft) (he : (position, e) ∈ caller.uses) :
    e.type.isVoid = false := by
  cases caller with
  | call name receiver gs arguments type =>
    cases hdraft
    rcases List.mem_append.1 he with hreceiver | hargument
    · exact h.receiver.isVoid_of_mem_uses hreceiver
    · simp only [List.mem_map, Prod.mk.injEq] at hargument
      obtain ⟨argument, hargument, -, rfl⟩ := hargument
      simpa using h.arguments (some argument) (List.mem_map_of_mem hargument)
  | _ => cases hdraft

/-- The rules for expressions ask for a value in every position but two. -/
theorem Expr.Lawful.isVoid_of_mem_uses {user : Expr} (h : user.Lawful unchecked)
    (he : (position, e) ∈ user.uses)
    (hplace : position ∉ [ValuePosition.creationArgument, .delegationArgument]) :
    e.type.isVoid = false := by
  cases h with
  | value | var | assignment | anonymousClass => cases he
  | ternary hcondition hbranches =>
    have hvoid := hbranches.elim JavaType.isVoid_of_accepts fun h =>
      (JavaType.isVoid_of_accepts h).symm
    simp only [uses, List.mem_cons, Prod.mk.injEq, List.not_mem_nil, or_false] at he
    obtain ⟨-, rfl⟩ | ⟨-, rfl⟩ | ⟨-, rfl⟩ := he
    · exact JavaType.isVoid_of_isBoolean hcondition
    · exact hvoid.1
    · exact hvoid.2
  | call hdraft hlawful => exact hlawful.isVoid_of_mem_uses hdraft he
  | create | delegation =>
    simp only [uses, List.mem_map, Prod.mk.injEq] at he
    obtain ⟨argument, -, rfl, -⟩ := he
    exact absurd (by simp) hplace
  | cast hvoid hmixed =>
    simp only [uses, List.mem_singleton, Prod.mk.injEq] at he
    obtain ⟨-, rfl⟩ := he
    exact hvoid.2
  | instanceOf hoperand htype =>
    simp only [uses, List.mem_singleton, Prod.mk.injEq] at he
    obtain ⟨-, rfl⟩ := he
    exact (JavaType.isReference_iff.1 hoperand).1
  | comparison hvoid hcomparable =>
    simp only [uses, List.mem_cons, Prod.mk.injEq, List.not_mem_nil, or_false] at he
    obtain ⟨-, rfl⟩ | ⟨-, rfl⟩ := he
    · exact hvoid.1
    · exact hvoid.2

theorem Node.Lawful.isVoid_of_mem_uses {n : Node} (h : n.Lawful unchecked)
    (he : (position, e) ∈ n.uses)
    (hplace : position ∉ [ValuePosition.creationArgument, .delegationArgument]) :
    e.type.isVoid = false := by
  cases h with
  | var hlawful => exact hlawful.isVoid_of_mem_uses he
  | assignment haccepts =>
    simp only [uses, List.mem_singleton, Prod.mk.injEq] at he
    obtain ⟨-, rfl⟩ := he
    exact (JavaType.isVoid_of_accepts haccepts).2
  | expression hlawful => exact hlawful.isVoid_of_mem_uses he hplace
  | statement | method | definition => cases he

/-! ## Values in what can be obtained -/

/-- Any expressions are accepted as the arguments of a creation. -/
theorem obtainable_create {type : Reference} (hclass : (JavaType.ofReference type).IsClass)
    {arguments : List Expr} (h : ∀ e ∈ arguments, Obtainable (.expression e)) (isDiamond : Bool) :
    Obtainable (.expression (.create type arguments isDiamond)) := by
  let draft : CreateDraft :=
    { type := some (.ofReference type), arguments := arguments.map some, isDiamond := isDiamond }
  have hbuild : draft.build = .ok (.create type arguments isDiamond) :=
    CreateDraft.build_eq_ok_iff.2 ⟨type, arguments, rfl, rfl, hclass, rfl⟩
  have hnode : (Draft.create draft).build
      = .ok (.expression (.create type arguments isDiamond)) := by
    rw [Draft.build, hbuild]
    rfl
  exact .make (.build hnode) (by simpa [Draft.parts, draft] using h)

/-- Any expressions are accepted as the arguments of the call of another constructor. -/
theorem obtainable_delegation (target : Delegate) {type : Reference}
    (hclass : (JavaType.ofReference type).IsClass) {arguments : List Expr}
    (h : ∀ e ∈ arguments, Obtainable (.expression e)) :
    Obtainable (.expression (.delegation target type arguments)) := by
  have hmake : Expr.mkDelegation target (.ofReference type) (arguments.map some)
      = .ok (.delegation target type arguments) :=
    Expr.mkDelegation_eq_ok_iff.2 ⟨type, arguments, rfl, rfl, hclass, rfl⟩
  exact .make (.delegation hmake) (by simpa using h)

/-- The call of a method by its name alone. -/
theorem obtainable_call (name : Identifier) {arguments : List Expr}
    (h : ∀ e ∈ arguments, Obtainable (.expression e))
    (hvoid : ∀ e ∈ arguments, e.type.isVoid = false) (type : JavaType) :
    Obtainable (.expression (.call name .implicit [] arguments type)) := by
  let draft : CallDraft :=
    { name := some name.text, arguments := arguments.map some, returnType := some type }
  have hlawful : draft.Lawful :=
    { receiver := ⟨.inl rfl, by simp [draft], by simp [draft]⟩
      typeArguments := fun hne => absurd rfl hne
      arguments := by simpa [draft] using hvoid }
  have hbuild : draft.build = .ok (.call name .implicit [] arguments type) :=
    CallDraft.build_eq_ok_iff.2 ⟨hlawful, rfl⟩
  have hnode : (Draft.call draft).build
      = .ok (.expression (.call name .implicit [] arguments type)) := by
    rw [Draft.build, hbuild]
    rfl
  exact .make (.build hnode) (by simpa [Draft.parts, draft] using h)

/-- Whatever calls a node comes from, nowhere in it is an expression without a value used as one,
but as an argument of a creation or of the call of another constructor. -/
theorem isVoid_of_mem_uses_of_obtainable {n m : Node} (hn : Obtainable n) (hm : m.Within n)
    (he : (position, e) ∈ m.uses)
    (hplace : position ∉ [ValuePosition.creationArgument, .delegationArgument]) :
    e.type.isVoid = false :=
  (hn.everywhere Made.lawful hm).isVoid_of_mem_uses he hplace

/-- In `new Box(run(null))`, the call `run(null)` is given a value. -/
theorem isVoid_of_mem_uses_of_obtainable_run :
    let box : Reference := .compiled ⟨[], [], { text := "Box" }⟩ [] [] false
    let null : Expr := .value .null
    let run : Expr := .call { text := "run" } .implicit [] [null] .void
    let created : Expr := .create box [run] false
    Obtainable (.expression created) ∧ (Node.expression run).Within (.expression created) ∧
      (.callArgument, null) ∈ (Node.expression run).uses ∧ null.type.isVoid = false := by
  intro box null run created
  have hbox : (JavaType.ofReference box).IsClass := ⟨rfl, rfl, by decide⟩
  have hnull : Obtainable (.expression null) := .make (.value .null) (by simp)
  have hrun : Obtainable (.expression run) :=
    obtainable_call _ (List.forall_mem_singleton.2 hnull) (List.forall_mem_singleton.2 rfl) _
  have hcreated : Obtainable (.expression created) :=
    obtainable_create hbox (List.forall_mem_singleton.2 hrun) false
  have hwithin : (Node.expression run).Within (.expression created) :=
    .child List.mem_cons_self .self
  have hused : (.callArgument, null) ∈ (Node.expression run).uses := List.mem_cons_self
  exact ⟨hcreated, hwithin, hused,
    isVoid_of_mem_uses_of_obtainable hcreated hwithin hused (by decide)⟩

/-- In `new Box(run())` and `this(run())`, the call `run()` is used as a value and has none. -/
theorem obtainable_void_arguments :
    let box : Reference := .compiled ⟨[], [], { text := "Box" }⟩ [] [] false
    let run : Expr := .call { text := "run" } .implicit [] [] .void
    let created : Node := .expression (.create box [run] false)
    let delegated : Node := .expression (.delegation .this box [run])
    run.type.isVoid = true ∧
      Obtainable created ∧ (.creationArgument, run) ∈ created.uses ∧
      Obtainable delegated ∧ (.delegationArgument, run) ∈ delegated.uses := by
  intro box run created delegated
  have hbox : (JavaType.ofReference box).IsClass := ⟨rfl, rfl, by decide⟩
  have hrun : Obtainable (.expression run) := obtainable_call _ (by simp) (by simp) _
  have hall : ∀ e ∈ [run], Obtainable (.expression e) := List.forall_mem_singleton.2 hrun
  exact ⟨rfl, obtainable_create hbox hall false, List.mem_cons_self,
    obtainable_delegation .this hbox hall, List.mem_cons_self⟩

end JavaSyntax
