import JavaSyntax.Proofs.Construction.Values
import JavaSyntax.Proofs.Types.Interchange

/-!
# Slots for values

A construction with one part left out is a slot. Variables are declared in slots of their own: as a
statement, as the variable of a loop, as a parameter, as a resource, and as what is caught. All
other expressions go into slots for values, which look at the type of an expression and at nothing
else. No such slot asks whether a variable is declared in it, so it takes a declaration, or an
assignment to one, wherever it would take the use. A tree declares its variables in the places for
declarations, `Node.DeclaresProperly`, exactly if none of its slots for values has been used in this
way.
-/

set_option autoImplicit false

namespace JavaSyntax

/-! ## Slots -/

/-- The slots for values. -/
inductive ValueSlot where
  | variableReceiver (draft : VariableDraft)
  | callReceiver (draft : CallDraft)
  | callArgument (draft : CallDraft) (before after : List (Option Expr))
  | creationArgument (draft : CreateDraft) (before after : List (Option Expr))
  | delegationArgument (target : Delegate) (type : JavaType) (before after : List (Option Expr))
  | assigned (target : VariableExpr)
  | choice (whenTrue whenFalse : Expr)
  | firstBranch (condition other : Expr)
  | secondBranch (condition other : Expr)
  | castOperand (type : JavaType)
  | testOperand (type : JavaType)
  | leftOperand (operator : Comparison) (right : Expr)
  | rightOperand (operator : Comparison) (left : Expr)
  | ifCondition (draft : ConditionalDraft)
  | elseIfCondition (draft : ConditionalDraft)
      (before after : List (Expr × List (Option Statement))) (body : List (Option Statement))
  | whileCondition (body : List (Option Statement))
  | collection (item : VariableExpr) (body : List (Option Statement))
  | result (draft : MethodDraft)

/-- The construction with an expression in the slot. -/
def ValueSlot.fill : ValueSlot → Expr → Checked Node
  | variableReceiver draft, e => (Draft.var { draft with object := some e }).build
  | callReceiver draft, e => (Draft.call { draft with object := some e }).build
  | callArgument draft before after, e =>
    (Draft.call { draft with arguments := before ++ some e :: after }).build
  | creationArgument draft before after, e =>
    (Draft.create { draft with arguments := before ++ some e :: after }).build
  | delegationArgument target type before after, e =>
    .expression <$> Expr.mkDelegation target type (before ++ some e :: after)
  | assigned target, e => .assignment <$> Assignment.make target e
  | choice whenTrue whenFalse, e => .expression <$> Expr.mkTernary e whenTrue whenFalse
  | firstBranch condition other, e => .expression <$> Expr.mkTernary condition e other
  | secondBranch condition other, e => .expression <$> Expr.mkTernary condition other e
  | castOperand type, e => .expression <$> Expr.mkCast type e
  | testOperand type, e => .expression <$> Expr.mkInstanceOf e type
  | leftOperand operator right, e => .expression <$> Expr.mkComparison operator e right
  | rightOperand operator left, e => .expression <$> Expr.mkComparison operator left e
  | ifCondition draft, e => (Draft.conditional { draft with condition := some e }).build
  | elseIfCondition draft before after body, e =>
    (Draft.conditional { draft with elseIfs := before ++ (e, body) :: after }).build
  | whileCondition body, e => .statement <$> Statement.mkWhileLoop e body
  | collection item body, e => .statement <$> Statement.mkForEach item e body
  | result draft, e => (Draft.method { draft with result := some e }).build

/-! ## Whether a construction succeeds -/

section Succeeding

variable {α β γ : Type}

theorem isOk_iff {x : Checked α} : x.isOk = true ↔ ∃ a, x = .ok a := by
  cases x <;> simp [Except.isOk, Except.toBool]

theorem isOk_congr {x : Checked α} {y : Checked β} (h : (∃ a, x = .ok a) ↔ ∃ b, y = .ok b) :
    x.isOk = y.isOk := by
  rw [Bool.eq_iff_iff, isOk_iff, isOk_iff]
  exact h

theorem isOk_map_congr {x y : Checked α} (f : α → β) (h : x.isOk = y.isOk) :
    (f <$> x).isOk = (f <$> y).isOk := by
  cases x <;> cases y <;> exact h

/-- What comes after a step decides together with it. -/
theorem isOk_bind_congr {x : Checked α} {f : α → Checked β} {g : α → Checked γ}
    (h : ∀ a, x = .ok a → (f a).isOk = (g a).isOk) : (x >>= f).isOk = (x >>= g).isOk := by
  cases x with
  | error r => rfl
  | ok a => exact h a rfl

/-- Two steps that succeed together, if what they make is not looked at later. -/
theorem isOk_bind_of_isOk_eq {x : Checked α} {y : Checked β} {f : α → Checked γ} {g : β → Checked γ}
    (hxy : x.isOk = y.isOk) (h : ∀ a b, (f a).isOk = (g b).isOk) :
    (x >>= f).isOk = (y >>= g).isOk := by
  cases x with
  | error r => cases y with
    | error r' => rfl
    | ok b => cases hxy
  | ok a => cases y with
    | error r' => cases hxy
    | ok b => exact h a b

theorem isOk_mapM (f : α → Checked β) (as : List α) :
    (as.mapM f).isOk = as.all fun a => (f a).isOk := by
  rw [Bool.eq_iff_iff, isOk_iff, exists_mapM_eq_ok_iff, List.all_eq_true]
  simp only [isOk_iff]

/-- An element that is there does not open a gap. -/
theorem withoutGaps_splice (node field : String) (before after : List (Option α)) (a : α) :
    withoutGaps node field (before ++ some a :: after) =
      (fun _ => before.filterMap id ++ a :: after.filterMap id) <$>
        withoutGaps node field (before ++ after) := by
  have hcount : gapCount (before ++ some a :: after) = gapCount (before ++ after) := by
    simp [gapCount]
  unfold withoutGaps
  rw [hcount]
  split <;> simp [reject]

end Succeeding

/-! ## Slots for values look at types -/

section Values

variable {e f : Expr}

theorem Receiver.isOk_ofParts (node : String) (e : Expr) (owner : Option JavaType) :
    (ofParts node (some e) owner).isOk = e.type.isReference := by
  rw [ofParts]
  split <;> simp_all [reject, Except.isOk, Except.toBool]

theorem VariableDraft.isOk_build_object (draft : VariableDraft) (h : e.type = f.type) :
    { draft with object := some e }.build.isOk = { draft with object := some f }.build.isOk := by
  refine isOk_bind_congr fun target _ => isOk_bind_congr fun _ _ => ?_
  cases draft.isDeclaration with
  | true => rfl
  | false =>
    refine isOk_bind_congr fun _ _ => isOk_bind_congr fun _ _ => isOk_bind_congr fun _ _ => ?_
    refine isOk_bind_of_isOk_eq ?_ fun _ _ => rfl
    rw [Receiver.isOk_ofParts, Receiver.isOk_ofParts, h]

namespace CallDraft

theorem isOk_build_object (draft : CallDraft) (h : e.type = f.type) :
    { draft with object := some e }.build.isOk = { draft with object := some f }.build.isOk := by
  refine isOk_bind_congr fun text _ => isOk_bind_congr fun name _ => isOk_bind_congr fun _ _ => ?_
  refine isOk_bind_of_isOk_eq ?_ fun _ _ => ?_
  · rw [Receiver.isOk_ofParts, Receiver.isOk_ofParts, h]
  · exact isOk_bind_congr fun _ _ => isOk_bind_congr fun _ _ => isOk_bind_congr fun _ _ => rfl

theorem isOk_checkArguments (arguments : List Expr) :
    (checkArguments arguments).isOk = arguments.all fun e => !e.type.isVoid := by
  unfold checkArguments
  split
  · next e he =>
    have hmem := List.mem_of_find?_eq_some he
    have hvoid := List.find?_some he
    symm
    simpa [reject, Except.isOk, Except.toBool] using ⟨e, hmem, hvoid⟩
  · next hnone =>
    symm
    simpa [Except.isOk, Except.toBool, List.find?_eq_none] using hnone

theorem isOk_build_arguments (draft : CallDraft) (before after : List (Option Expr))
    (h : e.type = f.type) :
    { draft with arguments := before ++ some e :: after }.build.isOk =
      { draft with arguments := before ++ some f :: after }.build.isOk := by
  refine isOk_bind_congr fun text _ => isOk_bind_congr fun name _ => isOk_bind_congr fun _ _ => ?_
  refine isOk_bind_congr fun receiver _ => isOk_bind_congr fun _ _ => ?_
  rw [withoutGaps_splice, withoutGaps_splice, bind_map_left, bind_map_left]
  refine isOk_bind_congr fun _ _ => isOk_bind_of_isOk_eq ?_ fun _ _ => rfl
  simp [isOk_checkArguments, h]

end CallDraft

theorem CreateDraft.isOk_build_arguments (draft : CreateDraft) (before after : List (Option Expr)) :
    { draft with arguments := before ++ some e :: after }.build.isOk =
      { draft with arguments := before ++ some f :: after }.build.isOk := by
  refine isOk_bind_congr fun type _ => isOk_bind_congr fun type _ => ?_
  rw [withoutGaps_splice, withoutGaps_splice, bind_map_left, bind_map_left]
  exact isOk_bind_congr fun _ _ => rfl

theorem isOk_checkCondition (node : String) (condition : Expr) :
    (checkCondition node condition).isOk = condition.type.isBoolean := by
  rw [checkCondition, require]
  split <;> simp_all [reject, Except.isOk, Except.toBool]

namespace ConditionalDraft

theorem isOk_build_condition (draft : ConditionalDraft) (h : e.type = f.type) :
    { draft with condition := some e }.build.isOk =
      { draft with condition := some f }.build.isOk := by
  refine isOk_bind_of_isOk_eq (x := checkCondition node e) (y := checkCondition node f) ?_ ?_
  · rw [isOk_checkCondition, isOk_checkCondition, h]
  · exact fun _ _ => isOk_bind_congr fun _ _ => isOk_bind_congr fun _ _ =>
      isOk_bind_congr fun _ _ => rfl

theorem isOk_buildElseIf (body : List (Option Statement)) (h : e.type = f.type) :
    (buildElseIf (e, body)).isOk = (buildElseIf (f, body)).isOk := by
  refine isOk_bind_of_isOk_eq ?_ fun _ _ => isOk_bind_congr fun _ _ => rfl
  rw [isOk_checkCondition, isOk_checkCondition, h]

theorem isOk_build_elseIfs (draft : ConditionalDraft)
    (before after : List (Expr × List (Option Statement))) (body : List (Option Statement))
    (h : e.type = f.type) :
    { draft with elseIfs := before ++ (e, body) :: after }.build.isOk =
      { draft with elseIfs := before ++ (f, body) :: after }.build.isOk := by
  refine isOk_bind_congr fun condition _ => isOk_bind_congr fun _ _ => ?_
  refine isOk_bind_of_isOk_eq ?_ fun _ _ => ?_
  · simp only [isOk_mapM, List.all_append, List.all_cons, isOk_buildElseIf body h]
  · exact isOk_bind_congr fun _ _ => isOk_bind_congr fun _ _ => rfl

end ConditionalDraft

namespace MethodDraft

theorem isOk_checkShape (draft : MethodDraft) (name : String) (returnType : JavaType)
    (h : e.type = f.type) :
    ({ draft with result := some e }.checkShape name returnType).isOk =
      ({ draft with result := some f }.checkShape name returnType).isOk := by
  unfold checkShape
  split
  · rfl
  · split
    · rfl
    · split
      · rfl
      · rw [isOk_checkResult rfl, isOk_checkResult rfl, h]

theorem isOk_build_result (draft : MethodDraft) (h : e.type = f.type) :
    { draft with result := some e }.build.isOk = { draft with result := some f }.build.isOk := by
  refine isOk_bind_congr fun name _ => isOk_bind_congr fun identifier _ => ?_
  refine isOk_bind_of_isOk_eq (isOk_checkShape draft name _ h) fun _ _ => ?_
  exact isOk_bind_congr fun _ _ => isOk_bind_congr fun _ _ => isOk_bind_congr fun _ _ =>
    isOk_bind_congr fun _ _ => rfl

end MethodDraft

namespace Expr

theorem isOk_mkDelegation (target : Delegate) (type : JavaType)
    (before after : List (Option Expr)) :
    (mkDelegation target type (before ++ some e :: after)).isOk =
      (mkDelegation target type (before ++ some f :: after)).isOk := by
  refine isOk_bind_congr fun type _ => ?_
  rw [withoutGaps_splice, withoutGaps_splice, bind_map_left, bind_map_left]
  exact isOk_bind_congr fun _ _ => rfl

theorem isOk_mkTernary (condition whenTrue whenFalse : Expr) :
    (mkTernary condition whenTrue whenFalse).isOk =
      (condition.type.isBoolean && (whenTrue.type.accepts whenFalse.type ||
        whenFalse.type.accepts whenTrue.type)) := by
  rw [Bool.eq_iff_iff, isOk_iff]
  simp [mkTernary_eq_ok_iff]

theorem isOk_mkCast (type : JavaType) (h : e.type = f.type) :
    (mkCast type e).isOk = (mkCast type f).isOk :=
  isOk_congr (by simp [mkCast_eq_ok_iff, h])

theorem isOk_mkInstanceOf (type : JavaType) (h : e.type = f.type) :
    (mkInstanceOf e type).isOk = (mkInstanceOf f type).isOk :=
  isOk_congr (by simp [mkInstanceOf_eq_ok_iff, h])

theorem isOk_mkComparison {left right left' right' : Expr} (operator : Comparison)
    (hleft : left.type = left'.type) (hright : right.type = right'.type) :
    (mkComparison operator left right).isOk = (mkComparison operator left' right').isOk :=
  isOk_congr (by simp [mkComparison_eq_ok_iff, hleft, hright])

end Expr

namespace Statement

theorem isOk_mkWhileLoop (body : List (Option Statement)) (h : e.type = f.type) :
    (mkWhileLoop e body).isOk = (mkWhileLoop f body).isOk :=
  isOk_congr (by simp [mkWhileLoop_eq_ok_iff, h])

theorem isOk_mkForEach (item : VariableExpr) (body : List (Option Statement))
    (h : e.type = f.type) : (mkForEach item e body).isOk = (mkForEach item f body).isOk :=
  isOk_congr (by simp [mkForEach_eq_ok_iff, h])

end Statement

/-- A slot for values tells expressions apart by their types alone. -/
theorem ValueSlot.isOk_fill_eq (slot : ValueSlot) (h : e.type = f.type) :
    (slot.fill e).isOk = (slot.fill f).isOk := by
  cases slot with
  | variableReceiver draft => exact isOk_map_congr _ (draft.isOk_build_object h)
  | callReceiver draft => exact isOk_map_congr _ (draft.isOk_build_object h)
  | callArgument draft before after =>
    exact isOk_map_congr _ (draft.isOk_build_arguments before after h)
  | creationArgument draft before after =>
    exact isOk_map_congr _ (draft.isOk_build_arguments before after)
  | delegationArgument target type before after =>
    exact isOk_map_congr _ (Expr.isOk_mkDelegation target type before after)
  | assigned target =>
    refine isOk_map_congr _ ?_
    rw [Assignment.isOk_make, Assignment.isOk_make, h]
  | choice | firstBranch | secondBranch =>
    refine isOk_map_congr _ ?_
    rw [Expr.isOk_mkTernary, Expr.isOk_mkTernary, h]
  | castOperand type => exact isOk_map_congr _ (Expr.isOk_mkCast type h)
  | testOperand type => exact isOk_map_congr _ (Expr.isOk_mkInstanceOf type h)
  | leftOperand operator right => exact isOk_map_congr _ (Expr.isOk_mkComparison operator h rfl)
  | rightOperand operator left => exact isOk_map_congr _ (Expr.isOk_mkComparison operator rfl h)
  | ifCondition draft => exact isOk_map_congr _ (draft.isOk_build_condition h)
  | elseIfCondition draft before after body =>
    exact isOk_map_congr _ (draft.isOk_build_elseIfs before after body h)
  | whileCondition body => exact isOk_map_congr _ (Statement.isOk_mkWhileLoop body h)
  | collection item body => exact isOk_map_congr _ (Statement.isOk_mkForEach item body h)
  | result draft => exact isOk_map_congr _ (draft.isOk_build_result h)

end Values

/-! ## What slots for values hold -/

section Holding

variable {n c : Node} {e : Expr}

theorem mem_presentExprs_singleton {e? : Option Expr} :
    .expression e ∈ presentExprs [e?] ↔ e? = some e := by
  cases e? <;> simp [eq_comm]

theorem mem_presentExprs {es : List (Option Expr)} :
    .expression e ∈ presentExprs es ↔ ∃ before after, es = before ++ some e :: after := by
  rw [← List.mem_iff_append]
  simp [presentExprs]

theorem not_mem_presentStatements {ss : List (Option Statement)} :
    .expression e ∉ presentStatements ss := by
  simp [presentStatements]

theorem Draft.mem_children_of_build {draft : Draft} (h : draft.build = .ok n)
    (he : .expression e ∈ draft.parts) : .expression e ∈ n.children := by
  rw [children_of_build h]
  exact he

theorem mem_presentExprs_splice (before after : List (Option Expr)) (e : Expr) :
    .expression e ∈ presentExprs (before ++ some e :: after) :=
  mem_presentExprs.2 ⟨before, after, rfl⟩

/-- What a slot is filled with lies in what is made. -/
theorem ValueSlot.mem_children_of_fill {slot : ValueSlot} (h : slot.fill e = .ok n) :
    .expression e ∈ n.children := by
  cases slot with
  | variableReceiver draft | callReceiver draft | ifCondition draft =>
    rw [fill] at h
    exact Draft.mem_children_of_build h List.mem_cons_self
  | callArgument draft before after =>
    rw [fill] at h
    exact Draft.mem_children_of_build h
      (List.mem_append_right _ (mem_presentExprs_splice before after e))
  | creationArgument draft before after =>
    rw [fill] at h
    exact Draft.mem_children_of_build h (mem_presentExprs_splice before after e)
  | elseIfCondition draft before after body =>
    rw [fill] at h
    exact Draft.mem_children_of_build h (by simp [Draft.parts])
  | result draft =>
    rw [fill] at h
    exact Draft.mem_children_of_build h (List.mem_append_right _ List.mem_cons_self)
  | delegationArgument target type before after =>
    obtain ⟨_, hmake, rfl⟩ := map_eq_ok_iff.1 h
    obtain ⟨_, present, rfl, -, -, heq⟩ := Expr.mkDelegation_eq_ok_iff.1 hmake
    have hmem := mem_presentExprs_splice before after e
    rw [heq, presentExprs_map_some] at hmem
    exact hmem
  | assigned target =>
    obtain ⟨_, hmake, rfl⟩ := map_eq_ok_iff.1 h
    obtain ⟨-, rfl⟩ := Assignment.make_eq_ok_iff.1 hmake
    exact List.mem_cons_of_mem _ List.mem_cons_self
  | choice | firstBranch | secondBranch =>
    obtain ⟨_, hmake, rfl⟩ := map_eq_ok_iff.1 h
    obtain ⟨-, -, rfl⟩ := Expr.mkTernary_eq_ok_iff.1 hmake
    simp [Node.children, Expr.children]
  | castOperand type =>
    obtain ⟨_, hmake, rfl⟩ := map_eq_ok_iff.1 h
    obtain ⟨-, -, -, rfl⟩ := Expr.mkCast_eq_ok_iff.1 hmake
    exact List.mem_cons_self
  | testOperand type =>
    obtain ⟨_, hmake, rfl⟩ := map_eq_ok_iff.1 h
    obtain ⟨-, -, -, rfl⟩ := Expr.mkInstanceOf_eq_ok_iff.1 hmake
    exact List.mem_cons_self
  | leftOperand | rightOperand =>
    obtain ⟨_, hmake, rfl⟩ := map_eq_ok_iff.1 h
    obtain ⟨-, rfl⟩ := Expr.mkComparison_eq_ok_iff.1 hmake
    simp [Node.children, Expr.children]
  | whileCondition body =>
    obtain ⟨_, hmake, rfl⟩ := map_eq_ok_iff.1 h
    obtain ⟨-, present, -, rfl⟩ := Statement.mkWhileLoop_eq_ok_iff.1 hmake
    exact List.mem_cons_self
  | collection item body =>
    obtain ⟨_, hmake, rfl⟩ := map_eq_ok_iff.1 h
    obtain ⟨d, present, -, -, -, rfl⟩ := Statement.mkForEach_eq_ok_iff.1 hmake
    exact List.mem_cons_of_mem _ List.mem_cons_self

/-- No slot for a value is a statement of its own. -/
theorem ValueSlot.fill_ne_expression (slot : ValueSlot) (e e' : Expr) :
    slot.fill e ≠ .ok (.statement (.expression e')) := by
  intro h
  cases slot with
  | ifCondition | elseIfCondition =>
    obtain ⟨s, hs, heq⟩ := map_eq_ok_iff.1 h
    cases heq
    cases (ConditionalDraft.build_eq_ok_iff.1 hs).2
  | whileCondition body =>
    obtain ⟨_, hmake, heq⟩ := map_eq_ok_iff.1 h
    obtain ⟨-, present, -, rfl⟩ := Statement.mkWhileLoop_eq_ok_iff.1 hmake
    cases heq
  | collection item body =>
    obtain ⟨_, hmake, heq⟩ := map_eq_ok_iff.1 h
    obtain ⟨d, present, -, -, -, rfl⟩ := Statement.mkForEach_eq_ok_iff.1 hmake
    cases heq
  | _ =>
    obtain ⟨_, -, heq⟩ := map_eq_ok_iff.1 h
    cases heq

/-- An expression that a draft is put together from fills a slot. -/
theorem Draft.exists_slot_of_build {draft : Draft} (h : draft.build = .ok n)
    (he : .expression e ∈ draft.parts) : ∃ slot : ValueSlot, slot.fill e = .ok n := by
  cases draft with
  | var d =>
    have hobject := mem_presentExprs_singleton.1 he
    exact ⟨.variableReceiver d, by rw [ValueSlot.fill, ← hobject]; exact h⟩
  | call d =>
    obtain hobject | harguments := List.mem_append.1 he
    · rw [mem_presentExprs_singleton] at hobject
      exact ⟨.callReceiver d, by rw [ValueSlot.fill, ← hobject]; exact h⟩
    · obtain ⟨before, after, heq⟩ := mem_presentExprs.1 harguments
      exact ⟨.callArgument d before after, by rw [ValueSlot.fill, ← heq]; exact h⟩
  | create d =>
    obtain ⟨before, after, heq⟩ := mem_presentExprs.1 he
    exact ⟨.creationArgument d before after, by rw [ValueSlot.fill, ← heq]; exact h⟩
  | conditional d =>
    simp only [parts, List.mem_append, List.mem_flatMap, List.mem_cons,
      not_mem_presentStatements, or_false, mem_presentExprs_singleton] at he
    obtain hcondition | ⟨⟨condition, body⟩, hbranch, heq⟩ := he
    · exact ⟨.ifCondition d, by rw [ValueSlot.fill, ← hcondition]; exact h⟩
    · cases heq
      obtain ⟨before, after, heq⟩ := List.append_of_mem hbranch
      exact ⟨.elseIfCondition d before after body, by rw [ValueSlot.fill, ← heq]; exact h⟩
  | method d =>
    simp only [parts, List.mem_append, List.mem_map, not_mem_presentStatements, reduceCtorEq,
      and_false, exists_false, false_or, mem_presentExprs_singleton] at he
    exact ⟨.result d, by rw [ValueSlot.fill, ← he]; exact h⟩
  | anonymousClass | tryCatch | definition => simp [parts, presentStatements] at he

/-- An expression that something is made of is a statement of its own or fills a slot. -/
theorem Made.exists_slot {unchecked : Bool} {parts : List Node} (h : Made unchecked parts n)
    (he : .expression e ∈ parts) :
    n = .statement (.expression e) ∨ ∃ slot : ValueSlot, slot.fill e = .ok n := by
  cases h with
  | value | ofVariable | declare | comment | emptyLine => cases he
  | ofVar | ofAssignment => simp at he
  | @assignment target source a h =>
    obtain rfl : e = source := by simpa using he
    exact .inr ⟨.assigned target, by rw [ValueSlot.fill, h]; rfl⟩
  | @ternary condition whenTrue whenFalse made h =>
    simp only [List.mem_cons, Node.expression.injEq, List.not_mem_nil, or_false] at he
    obtain rfl | rfl | rfl := he
    · exact .inr ⟨.choice whenTrue whenFalse, by rw [ValueSlot.fill, h]; rfl⟩
    · exact .inr ⟨.firstBranch condition whenFalse, by rw [ValueSlot.fill, h]; rfl⟩
    · exact .inr ⟨.secondBranch condition whenTrue, by rw [ValueSlot.fill, h]; rfl⟩
  | @cast type operand made h =>
    cases List.mem_singleton.1 he
    exact .inr ⟨.castOperand type, by rw [ValueSlot.fill, h]; rfl⟩
  | @instanceOf operand made type h =>
    cases List.mem_singleton.1 he
    exact .inr ⟨.testOperand type, by rw [ValueSlot.fill, h]; rfl⟩
  | @comparison operator left right made h =>
    simp only [List.mem_cons, Node.expression.injEq, List.not_mem_nil, or_false] at he
    obtain rfl | rfl := he
    · exact .inr ⟨.leftOperand operator right, by rw [ValueSlot.fill, h]; rfl⟩
    · exact .inr ⟨.rightOperand operator left, by rw [ValueSlot.fill, h]; rfl⟩
  | @delegation target type arguments made h =>
    obtain ⟨before, after, rfl⟩ := mem_presentExprs.1 he
    exact .inr ⟨.delegationArgument target type before after, by rw [ValueSlot.fill, h]; rfl⟩
  | expression h =>
    obtain ⟨-, rfl⟩ := Statement.mkExpression_eq_ok_iff.1 h
    cases List.mem_singleton.1 he
    exact .inl rfl
  | block => exact absurd he not_mem_presentStatements
  | @forEach item collection body s h =>
    obtain rfl : e = collection := by simpa [not_mem_presentStatements] using he
    exact .inr ⟨.collection item body, by rw [ValueSlot.fill, h]; rfl⟩
  | @whileLoop condition body s h =>
    obtain rfl : e = condition := by simpa [not_mem_presentStatements] using he
    exact .inr ⟨.whileCondition body, by rw [ValueSlot.fill, h]; rfl⟩
  | build h => exact .inr (Draft.exists_slot_of_build h he)

end Holding

/-! ## Declarations -/

/-- The variable, as one that is declared elsewhere. -/
def VariableExpr.undeclared : VariableExpr → VariableExpr
  | declaration d => .ofVariable d.toVariable
  | use v receiver => .use v receiver

namespace Expr

/-- Whether an expression declares a variable, to assign to it or not. -/
def declares : Expr → Bool
  | var v => v.declaration?.isSome
  | assignment target _ => target.declaration?.isSome
  | _ => false

/-- The expression without the declaration that it is or begins with. -/
def undeclared : Expr → Expr
  | var v => .var v.undeclared
  | assignment target source => .assignment target.undeclared source
  | e => e

theorem declares_undeclared (e : Expr) : e.undeclared.declares = false := by
  cases e with
  | var v => cases v <;> rfl
  | assignment target source => cases target <;> rfl
  | _ => rfl

theorem type_undeclared (e : Expr) : e.undeclared.type = e.type := by
  cases e with
  | var v => cases v <;> rfl
  | assignment target source => cases target <;> rfl
  | _ => rfl

end Expr

namespace Node

/-- Whether a declaration may stand directly in a node: as a statement of its own, with an assigned
value or without, as the resource of a `try`, as the variable of a loop, as what is caught, and as a
parameter. -/
def MayDeclare (n : Node) : Node → Prop
  | expression e => e.declares = true → n = .statement (.expression e)
  | assignment a =>
    ∀ d, a.target = .declaration d →
      n = .expression a.toExpr ∨
        ∃ body handler, n = .statement (.tryCatch (.binding d a.source) body handler)
  | var v =>
    ∀ d, v = .declaration d →
      n = .expression (.var v) ∨ (∃ source, n = .assignment { target := v, source := source }) ∨
        (∃ collection body, n = .statement (.forEach d collection body)) ∨
        (∃ resource body handler,
          n = .statement (.tryCatch resource body handler) ∧ handler.caught? = some v) ∨
        ∃ m, n = .method m ∧ d ∈ m.header.parameters
  | statement _ | method _ | definition _ => True

/-- Whether every declaration anywhere in a node stands where variables may be declared. -/
def DeclaresProperly (n : Node) : Prop :=
  ∀ m : Node, m.Within n → ∀ c ∈ m.children, m.MayDeclare c

section Children

variable {n c : Node}

theorem mayDeclare_of_mem_statements {ss : List Statement} (hc : c ∈ ss.map .statement) :
    n.MayDeclare c := by
  obtain ⟨s, -, rfl⟩ := List.mem_map.1 hc
  trivial

theorem mayDeclare_of_mem_methods {ms : List Method} (hc : c ∈ ms.map .method) :
    n.MayDeclare c := by
  obtain ⟨m, -, rfl⟩ := List.mem_map.1 hc
  trivial

theorem mayDeclare_of_mem_expressions (es : List Expr)
    (h : ∀ e, c = .expression e → n.MayDeclare c) (hc : c ∈ es.map .expression) :
    n.MayDeclare c := by
  obtain ⟨e, -, rfl⟩ := List.mem_map.1 hc
  exact h e rfl

theorem mayDeclare_of_mem_expr {user : Expr} (hc : c ∈ user.children)
    (h : ∀ e, c = .expression e → (expression user).MayDeclare c) :
    (expression user).MayDeclare c := by
  cases user with
  | value v => cases hc
  | var v =>
    cases List.mem_singleton.1 hc
    exact fun d hd => .inl rfl
  | ternary condition whenTrue whenFalse =>
    exact mayDeclare_of_mem_expressions [condition, whenTrue, whenFalse] h hc
  | assignment target source =>
    cases List.mem_singleton.1 hc
    exact fun d hd => .inl rfl
  | call name receiver typeArguments arguments type =>
    obtain hreceiver | harguments := List.mem_append.1 hc
    · exact mayDeclare_of_mem_expressions _ h hreceiver
    · exact mayDeclare_of_mem_expressions _ h harguments
  | create | delegation => exact mayDeclare_of_mem_expressions _ h hc
  | cast type operand => exact mayDeclare_of_mem_expressions [operand] h hc
  | instanceOf operand type => exact mayDeclare_of_mem_expressions [operand] h hc
  | comparison operator left right =>
    exact mayDeclare_of_mem_expressions [left, right] h hc
  | anonymousClass type statements methods =>
    obtain hstatements | hmethods := List.mem_append.1 hc
    · exact mayDeclare_of_mem_statements hstatements
    · exact mayDeclare_of_mem_methods hmethods

theorem mayDeclare_of_mem_branch {b : Branch} (hc : c ∈ b.children)
    (h : ∀ e, c = .expression e → n.MayDeclare c) : n.MayDeclare c := by
  obtain hcondition | hbody := List.mem_cons.1 hc
  · exact h b.condition hcondition
  · exact mayDeclare_of_mem_statements hbody

theorem mayDeclare_of_mem_statement {s : Statement} (hc : c ∈ s.children)
    (h : ∀ e, c = .expression e → (statement s).MayDeclare c) : (statement s).MayDeclare c := by
  cases s with
  | expression e => exact h e (List.mem_singleton.1 hc)
  | block isStatic body => exact mayDeclare_of_mem_statements hc
  | conditional first others otherwise =>
    simp only [Statement.children, List.mem_append, List.mem_flatMap] at hc
    obtain (hfirst | ⟨b, -, hb⟩) | hotherwise := hc
    · exact mayDeclare_of_mem_branch hfirst h
    · exact mayDeclare_of_mem_branch hb h
    · exact mayDeclare_of_mem_statements hotherwise
  | forEach item collection body =>
    simp only [Statement.children, List.mem_cons] at hc
    obtain rfl | hcollection | hbody := hc
    · rintro d ⟨⟩
      exact .inr (.inr (.inl ⟨collection, body, rfl⟩))
    · exact h collection hcollection
    · exact mayDeclare_of_mem_statements hbody
  | whileLoop condition body => exact mayDeclare_of_mem_branch (b := ⟨condition, body⟩) hc h
  | tryCatch resource body handler =>
    simp only [Statement.children, List.mem_append, List.mem_map, Option.mem_toList] at hc
    obtain ((⟨a, ha, rfl⟩ | hbody) | ⟨v, hv, rfl⟩) | hhandler := hc
    · intro d hd
      cases resource with
      | absent => cases ha
      | binding d' source =>
        cases ha
        cases hd
        exact .inr ⟨body, handler, rfl⟩
    · exact mayDeclare_of_mem_statements (List.mem_map.2 hbody)
    · exact fun d hd => .inr (.inr (.inr (.inl ⟨resource, body, handler, rfl, hv⟩)))
    · exact mayDeclare_of_mem_statements (List.mem_map.2 hhandler)
  | comment | emptyLine => cases hc

theorem mayDeclare_of_mem_method {m : Method} (hc : c ∈ m.children)
    (h : ∀ e, c = .expression e → (method m).MayDeclare c) : (method m).MayDeclare c := by
  simp only [Method.children, List.mem_append] at hc
  obtain (hparameter | hbody) | hresult := hc
  · obtain ⟨d, hd, rfl⟩ := List.mem_map.1 hparameter
    rintro d' ⟨⟩
    exact .inr (.inr (.inr (.inr ⟨m, rfl, hd⟩)))
  · exact mayDeclare_of_mem_statements hbody
  · exact mayDeclare_of_mem_expressions _ h hresult

/-- Variables and assignments have no other places than these, so only an expression can declare
where it may not. -/
theorem mayDeclare_of_mem_children (hc : c ∈ n.children)
    (h : ∀ e, c = .expression e → n.MayDeclare c) : n.MayDeclare c := by
  cases n with
  | var v =>
    cases v with
    | declaration d => cases hc
    | use v receiver => exact mayDeclare_of_mem_expressions _ h hc
  | assignment a =>
    obtain rfl | hsource := List.mem_cons.1 hc
    · exact fun d hd => .inr (.inl ⟨a.source, rfl⟩)
    · exact h a.source (List.mem_singleton.1 hsource)
  | expression user => exact mayDeclare_of_mem_expr hc h
  | statement s => exact mayDeclare_of_mem_statement hc h
  | method m => exact mayDeclare_of_mem_method hc h
  | definition d =>
    simp only [children, ClassDefinition.children, List.mem_append] at hc
    obtain (hstatements | hmethods) | hnested := hc
    · exact mayDeclare_of_mem_statements hstatements
    · exact mayDeclare_of_mem_methods hmethods
    · obtain ⟨d, -, rfl⟩ := List.mem_map.1 hnested
      trivial

end Children

end Node

theorem Node.not_declaresProperly {n : Node} {e : Expr} (he : .expression e ∈ n.children)
    (hdeclares : e.declares = true) (hn : n ≠ .statement (.expression e)) :
    ¬ n.DeclaresProperly :=
  fun h => hn (h n .self _ he hdeclares)

/-- In what can be obtained, every declaration stands where variables may be declared if and only if
no slot for a value holds one. The slots do not see to this: such a slot takes a declaration, or an
assignment to one, exactly where it takes the use of the variable. -/
theorem declaresProperly_iff {n : Node} (hn : Obtainable n) :
    (n.DeclaresProperly ↔
      ∀ m : Node, m.Within n → ∀ (slot : ValueSlot) (e : Expr), slot.fill e = .ok m →
        e.declares = false) ∧
    ∀ (slot : ValueSlot) (e : Expr), e.undeclared.declares = false ∧
      (slot.fill e).isOk = (slot.fill e.undeclared).isOk := by
  refine ⟨⟨fun h m hm slot e hfill => ?_, fun h m hm c hc => ?_⟩,
    fun slot e => ⟨e.declares_undeclared, slot.isOk_fill_eq e.type_undeclared.symm⟩⟩
  · have hplace : m.MayDeclare (.expression e) :=
      h m hm _ (ValueSlot.mem_children_of_fill hfill)
    -- The only place for a declaring expression is a statement of its own, which no slot makes.
    by_contra hdeclares
    have hown : m = .statement (.expression e) := hplace (by simpa using hdeclares)
    exact slot.fill_ne_expression e e (hown ▸ hfill)
  · refine Node.mayDeclare_of_mem_children hc ?_
    rintro e rfl hdeclares
    have hplace : m = .statement (.expression e) ∨ ∃ slot : ValueSlot, slot.fill e = .ok m :=
      hn.everywhere
        (P := fun m => .expression e ∈ m.children →
          m = .statement (.expression e) ∨ ∃ slot : ValueSlot, slot.fill e = .ok m)
        (fun hmade he => hmade.exists_slot (hmade.children_subset he)) hm hc
    obtain hown | ⟨slot, hfill⟩ := hplace
    · exact hown
    · cases (h m hm slot e hfill).symm.trans hdeclares

/-- In `int count;`, no slot for a value holds a declaration, so the variable is declared where it
may be. -/
theorem declaresProperly_iff_count :
    let count : Variable := ⟨{ text := "count" }, .ofPrimitive .int, rfl⟩
    Obtainable (.statement (.declare count)) ∧
      (Node.statement (.declare count)).DeclaresProperly := by
  intro count
  have hcount : Obtainable (.statement (.declare count)) := reached_declare count
  refine ⟨hcount, (declaresProperly_iff hcount).1.2 fun m hm slot e hfill => ?_⟩
  have he := ValueSlot.mem_children_of_fill hfill
  cases hm with
  | self => exact absurd hfill (slot.fill_ne_expression e _)
  | child hexpression hm =>
    cases List.mem_singleton.1 hexpression
    cases hm with
    | self => cases List.mem_singleton.1 he
    | child hvar hm =>
      cases List.mem_singleton.1 hvar
      cases hm with
      | self => cases he
      | child hnone _ => cases hnone

/-- In `foo(String text)`, `foo(String text = null)` and `while (boolean ready) {}`, a variable is
declared where a value belongs. -/
theorem obtainable_declared_values :
    let text : Variable := ⟨{ text := "text" }, .string, rfl⟩
    let ready : Variable := ⟨{ text := "ready" }, .boolean, rfl⟩
    let assigned : Assignment := { target := .declare text, source := .value .null }
    let call (argument : Expr) : Node :=
      .expression (.call { text := "foo" } .implicit [] [argument] .void)
    let loop : Node := .statement (.whileLoop (.var (.declare ready)) [])
    (Obtainable (call (.var (.declare text))) ∧
        ¬ (call (.var (.declare text))).DeclaresProperly) ∧
      (Obtainable (call assigned.toExpr) ∧ ¬ (call assigned.toExpr).DeclaresProperly) ∧
      Obtainable loop ∧ ¬ loop.DeclaresProperly := by
  intro text ready assigned call loop
  have hvar (v : Variable) : Obtainable (.var (.declare v)) := .make (.declare v) (by simp)
  have hdeclared (v : Variable) : Obtainable (.expression (.var (.declare v))) :=
    .make (.ofVar _) (List.forall_mem_singleton.2 (hvar v))
  have hnull : Obtainable (.expression (.value .null)) := .make (.value .null) (by simp)
  have hmake : Assignment.make (.declare text) (.value .null) = .ok assigned :=
    Assignment.make_eq_ok_iff.2 ⟨by decide +kernel, rfl⟩
  have hassigned : Obtainable (.assignment assigned) :=
    .make (.assignment hmake) (by simpa using ⟨hvar text, hnull⟩)
  have hassignment : Obtainable (.expression assigned.toExpr) :=
    .make (.ofAssignment assigned) (List.forall_mem_singleton.2 hassigned)
  have hcall (e : Expr) (h : Obtainable (.expression e)) (hvoid : e.type.isVoid = false)
      (hdeclares : e.declares = true) : Obtainable (call e) ∧ ¬ (call e).DeclaresProperly :=
    ⟨obtainable_call _ (List.forall_mem_singleton.2 h) (List.forall_mem_singleton.2 hvoid) _,
      Node.not_declaresProperly List.mem_cons_self hdeclares (by simp [call])⟩
  have hloop : Statement.mkWhileLoop (.var (.declare ready)) []
      = .ok (.whileLoop (.var (.declare ready)) []) := rfl
  exact ⟨hcall _ (hdeclared text) rfl rfl, hcall _ hassignment rfl rfl,
    .make (.whileLoop hloop) (List.forall_mem_singleton.2 (hdeclared ready)),
    Node.not_declaresProperly List.mem_cons_self rfl (by simp [loop])⟩

end JavaSyntax
