import JavaSyntax.Message.Sample
import JavaSyntax.Proofs.Construction.Classes
import JavaSyntax.Proofs.Construction.Methods
import JavaSyntax.Proofs.Construction.Nodes
import JavaSyntax.Proofs.Construction.Statements

/-!
# Which nodes can be obtained

A caller obtains nodes by construction, by taking parts out of nodes, by rebuilding a node from its
changed draft, and by having the value of a field or a sample composed. `Made` is one construction
and lists what it is made of; `Reached` is everything that any sequence of these leads to. A keyword
or constant can be given a type by hand, which nothing checks, and so there are two of each: with
such values and without. `Obtainable` is with them.

Whatever holds of every constructed node, whatever its parts are, holds of every node anywhere in
one that is reached: this is `Reached.everywhere`.
-/

set_option autoImplicit false

namespace JavaSyntax

/-! ## Constructions -/

section

-- Whether keywords and constants may be given a type by hand.
variable (unchecked : Bool)

/-- The values that can be constructed. -/
inductive Value.Made : Value → Prop
  | literal {type : JavaType} {text : String} {l : Literal}
    (h : Literal.ofString type text = .ok l) : Made (.literal l)
  | string (text : String) : Made (.string text)
  | null : Made .null
  | this {type : JavaType} {v : Value} (h : Value.ofThis type = .ok v) : Made v
  | super {type : JavaType} {v : Value} (h : Value.ofSuper type = .ok v) : Made v
  | constant {type : JavaType} {name : String} {v : Value}
    (h : Value.ofConstant type name = .ok v) : Made v
  | uncheckedThis (h : unchecked = true) (type : JavaType) : Made (.this type)
  | uncheckedSuper (h : unchecked = true) (type : JavaType) : Made (.super type)
  | uncheckedConstant (h : unchecked = true) (type : JavaType) (name : Identifier) :
    Made (.constant type name)

/-- One construction: the nodes that it is given, and the node that it makes. -/
inductive Made : List Node → Node → Prop
  | value {v : Value} (h : Value.Made unchecked v) : Made [] (.expression (.value v))
  | ofVariable (v : Variable) : Made [] (.var (.ofVariable v))
  | declare (v : Variable) : Made [] (.var (.declare v))
  | ofVar (v : VariableExpr) : Made [.var v] (.expression (.var v))
  | assignment {target : VariableExpr} {source : Expr} {a : Assignment}
    (h : Assignment.make target source = .ok a) :
    Made [.var target, .expression source] (.assignment a)
  | ofAssignment (a : Assignment) : Made [.assignment a] (.expression a.toExpr)
  | ternary {condition whenTrue whenFalse e : Expr}
    (h : Expr.mkTernary condition whenTrue whenFalse = .ok e) :
    Made [.expression condition, .expression whenTrue, .expression whenFalse] (.expression e)
  | cast {type : JavaType} {operand e : Expr} (h : Expr.mkCast type operand = .ok e) :
    Made [.expression operand] (.expression e)
  | instanceOf {operand e : Expr} {type : JavaType} (h : Expr.mkInstanceOf operand type = .ok e) :
    Made [.expression operand] (.expression e)
  | comparison {operator : Comparison} {left right e : Expr}
    (h : Expr.mkComparison operator left right = .ok e) :
    Made [.expression left, .expression right] (.expression e)
  | delegation {target : Delegate} {type : JavaType} {arguments : List (Option Expr)} {e : Expr}
    (h : Expr.mkDelegation target type arguments = .ok e) :
    Made (presentExprs arguments) (.expression e)
  | expression {e : Expr} {s : Statement} (h : Statement.mkExpression e = .ok s) :
    Made [.expression e] (.statement s)
  | block {isStatic : Bool} {body : List (Option Statement)} {s : Statement}
    (h : Statement.mkBlock isStatic body = .ok s) : Made (presentStatements body) (.statement s)
  | forEach {item : VariableExpr} {collection : Expr} {body : List (Option Statement)}
    {s : Statement} (h : Statement.mkForEach item collection body = .ok s) :
    Made (.var item :: .expression collection :: presentStatements body) (.statement s)
  | whileLoop {condition : Expr} {body : List (Option Statement)} {s : Statement}
    (h : Statement.mkWhileLoop condition body = .ok s) :
    Made (.expression condition :: presentStatements body) (.statement s)
  | comment (c : Comment) : Made [] (.statement (.comment c))
  | emptyLine : Made [] (.statement .emptyLine)
  | build {draft : Draft} {n : Node} (h : draft.build = .ok n) : Made draft.parts n

/-- What any sequence of calls leads to. -/
inductive Reached : Node → Prop
  | make {parts : List Node} {n : Node} (hmade : Made unchecked parts n)
    (hparts : ∀ p ∈ parts, Reached p) : Reached n
  /-- A part is taken out of a node. -/
  | part {n c : Node} (hn : Reached n) (hc : c ∈ n.children) : Reached c
  /-- The draft of a node is changed in any way and built again. -/
  | rebuild {original n : Node} {draft changed : Draft} (horiginal : Reached original)
    (hdraft : original.toDraft? = some draft)
    (hparts : ∀ p ∈ changed.parts, p ∉ draft.parts → Reached p) (h : changed.build = .ok n) :
    Reached n
  /-- The value of a field is composed. -/
  | placeholder {f : Field} {useExplicit : Bool} {e : Expr}
    (h : f.placeholder useExplicit = .ok e) : Reached (.expression e)
  /-- A sample of a message is composed. -/
  | sample {m : Message} {known : List String} {e : Expr} (h : m.sample known = .ok e) :
    Reached (.expression e)

end

/-- The nodes that a caller can obtain. -/
abbrev Obtainable (n : Node) : Prop := Reached true n

/-! ## What is built and what it was built from -/

namespace Draft

/-- The draft with everything that it leaves to be chosen. -/
def completed : Draft → Draft
  | call d => call d.completed
  | method d => method d.completed
  | d => d

theorem parts_completed (draft : Draft) : draft.completed.parts = draft.parts := by
  cases draft <;> rfl

/-- Writing out what a draft leaves to be chosen does not change what is built. -/
theorem build_completed (draft : Draft) : draft.completed.build = draft.build := by
  cases draft with
  | method d => exact congrArg (Node.method <$> ·) d.build_completed
  | _ => rfl

theorem eq_ok_of_map {α : Type} {x : Checked α} {f : α → Node} {a : α} (hf : f.Injective)
    (h : f <$> x = .ok (f a)) : x = .ok a := by
  obtain ⟨b, rfl, hb⟩ := map_eq_ok_iff.1 h
  rw [hf hb]

/-- What is built has the completed draft as its own, or it has none and holds the parts of the
draft. -/
theorem toDraft?_of_build {draft : Draft} {n : Node} (h : draft.build = .ok n) :
    n.toDraft? = some draft.completed ∨ n.toDraft? = none ∧ n.children = draft.parts := by
  cases draft with
  | var d =>
    obtain ⟨v, hv, rfl⟩ := map_eq_ok_iff.1 h
    obtain ⟨-, rfl⟩ := VariableDraft.build_eq_ok_iff.1 hv
    exact .inl rfl
  | call d =>
    obtain ⟨e, he, rfl⟩ := map_eq_ok_iff.1 h
    obtain ⟨-, hdraft⟩ := CallDraft.build_eq_ok_iff.1 he
    exact .inl (congrArg (Option.map Draft.call) hdraft)
  | create d =>
    obtain ⟨e, he, rfl⟩ := map_eq_ok_iff.1 h
    obtain ⟨type, arguments, rfl, -, -, harguments⟩ := CreateDraft.build_eq_ok_iff.1 he
    exact .inr ⟨rfl, by simp [parts, harguments, Node.children, Expr.children]⟩
  | anonymousClass d =>
    obtain ⟨e, he, rfl⟩ := map_eq_ok_iff.1 h
    obtain ⟨type, ss, ms, rfl, -, -, hss, hms⟩ := AnonymousClassDraft.of_build he
    exact .inr ⟨rfl, by simp [parts, hss, hms, Node.children, Expr.children]⟩
  | conditional d =>
    obtain ⟨s, hs, rfl⟩ := map_eq_ok_iff.1 h
    exact .inl (Statement.toDraft?_of_conditional (ConditionalDraft.build_eq_ok_iff.1 hs).2)
  | tryCatch d =>
    obtain ⟨s, hs, rfl⟩ := map_eq_ok_iff.1 h
    exact .inl (Statement.toDraft?_of_tryCatch (TryDraft.build_eq_ok_iff.1 hs).2)
  | method d =>
    obtain ⟨m, hm, rfl⟩ := map_eq_ok_iff.1 h
    exact .inl (congrArg (some ∘ Draft.method) (MethodDraft.toDraft_of_build hm))
  | definition d =>
    obtain ⟨c, hc, rfl⟩ := map_eq_ok_iff.1 h
    obtain ⟨-, rfl⟩ := ClassDraft.build_eq_ok_iff.1 hc
    exact .inl rfl

/-- What is built holds just the parts of the draft. -/
theorem children_of_build {draft : Draft} {n : Node} (h : draft.build = .ok n) :
    n.children = draft.parts := by
  obtain hdraft | ⟨-, hchildren⟩ := toDraft?_of_build h
  · rw [← Node.parts_of_toDraft? hdraft, parts_completed]
  · exact hchildren

end Draft

variable {unchecked : Bool}

namespace Made

variable {parts : List Node} {n : Node}

/-- What is made holds nothing but what it was made of, and if it has a draft, is built from that
draft as well. -/
theorem children_subset_and_rebuild (h : Made unchecked parts n) :
    n.children ⊆ parts ∧
      (n.toDraft? = none ∨ ∃ draft, n.toDraft? = some draft ∧ draft.build = .ok n) := by
  cases h with
  | value h => exact ⟨List.nil_subset _, .inl rfl⟩
  | ofVariable v => exact ⟨List.nil_subset _, .inr ⟨_, rfl, rfl⟩⟩
  | declare v => exact ⟨List.nil_subset _, .inr ⟨_, rfl, rfl⟩⟩
  | ofVar v => exact ⟨List.Subset.refl _, .inl rfl⟩
  | assignment h =>
    obtain ⟨-, rfl⟩ := Assignment.make_eq_ok_iff.1 h
    exact ⟨List.Subset.refl _, .inl rfl⟩
  | ofAssignment a => exact ⟨List.Subset.refl _, .inl rfl⟩
  | ternary h =>
    obtain ⟨-, -, rfl⟩ := Expr.mkTernary_eq_ok_iff.1 h
    exact ⟨List.Subset.refl _, .inl rfl⟩
  | cast h =>
    obtain ⟨-, -, -, rfl⟩ := Expr.mkCast_eq_ok_iff.1 h
    exact ⟨List.Subset.refl _, .inl rfl⟩
  | instanceOf h =>
    obtain ⟨-, -, -, rfl⟩ := Expr.mkInstanceOf_eq_ok_iff.1 h
    exact ⟨List.Subset.refl _, .inl rfl⟩
  | comparison h =>
    obtain ⟨-, rfl⟩ := Expr.mkComparison_eq_ok_iff.1 h
    exact ⟨List.Subset.refl _, .inl rfl⟩
  | delegation h =>
    obtain ⟨type, present, rfl, -, -, rfl⟩ := Expr.mkDelegation_eq_ok_iff.1 h
    exact ⟨by simp [Node.children, Expr.children], .inl rfl⟩
  | expression h =>
    obtain ⟨-, rfl⟩ := Statement.mkExpression_eq_ok_iff.1 h
    exact ⟨List.Subset.refl _, .inl rfl⟩
  | block h =>
    obtain ⟨present, rfl, rfl⟩ := Statement.mkBlock_eq_ok_iff.1 h
    exact ⟨by simp [Node.children, Statement.children], .inl rfl⟩
  | forEach h =>
    obtain ⟨d, present, rfl, -, rfl, rfl⟩ := Statement.mkForEach_eq_ok_iff.1 h
    exact ⟨by simp [Node.children, Statement.children], .inl rfl⟩
  | whileLoop h =>
    obtain ⟨-, present, rfl, rfl⟩ := Statement.mkWhileLoop_eq_ok_iff.1 h
    exact ⟨by simp [Node.children, Statement.children], .inl rfl⟩
  | comment c => exact ⟨List.nil_subset _, .inl rfl⟩
  | emptyLine => exact ⟨List.nil_subset _, .inl rfl⟩
  | @build draft _ h =>
    refine ⟨by rw [Draft.children_of_build h]; exact List.Subset.refl _, ?_⟩
    obtain hown | ⟨hnone, -⟩ := Draft.toDraft?_of_build h
    · exact .inr ⟨draft.completed, hown, draft.build_completed.trans h⟩
    · exact .inl hnone

/-- What is made holds nothing but what it was made of. -/
theorem children_subset (h : Made unchecked parts n) : n.children ⊆ parts :=
  h.children_subset_and_rebuild.1

/-- What is made is built from its own draft as well. -/
theorem rebuild (h : Made unchecked parts n) {draft : Draft} (hdraft : n.toDraft? = some draft) :
    draft.build = .ok n := by
  obtain hnone | ⟨own, hown, hbuild⟩ := h.children_subset_and_rebuild.2
  · cases hnone.symm.trans hdraft
  · cases hown.symm.trans hdraft
    exact hbuild

end Made

/-! ## Constructions are enough -/

/-- What constructions alone lead to. -/
inductive Assembled (unchecked : Bool) : Node → Prop
  | make {parts : List Node} {n : Node} (hmade : Made unchecked parts n)
    (hparts : ∀ p ∈ parts, Assembled unchecked p) : Assembled unchecked n

namespace Assembled

/-- Taking parts out leads to nothing new. -/
theorem child {n c : Node} (hn : Assembled unchecked n) (hc : c ∈ n.children) :
    Assembled unchecked c := by
  cases hn with
  | make hmade hparts => exact hparts c (hmade.children_subset hc)

theorem build (draft : Draft) {n : Node} (h : draft.build = .ok n)
    (hparts : ∀ p ∈ draft.parts, Assembled unchecked p) : Assembled unchecked n :=
  .make (.build h) hparts

theorem call {draft : CallDraft} {e : Expr} (h : draft.build = .ok e)
    (hparts : ∀ p ∈ (Draft.call draft).parts, Assembled unchecked p) :
    Assembled unchecked (.expression e) :=
  .build (.call draft) (by rw [Draft.build, h]; rfl) hparts

theorem create {draft : CreateDraft} {e : Expr} (h : draft.build = .ok e)
    (hparts : ∀ p ∈ (Draft.create draft).parts, Assembled unchecked p) :
    Assembled unchecked (.expression e) :=
  .build (.create draft) (by rw [Draft.build, h]; rfl) hparts

/-! ### Composed values -/

theorem literal {type : JavaType} {text : String} {l : Literal}
    (h : Literal.ofString type text = .ok l) :
    Assembled unchecked (.expression (.value (.literal l))) :=
  .make (.value (.literal h)) (by simp)

theorem emptyCollection {f : Field} {useExplicit : Bool} {e : Expr}
    (h : f.emptyCollection useExplicit = .ok e) : Assembled unchecked (.expression e) := by
  simp only [Field.emptyCollection, bind_eq_ok_iff] at h
  obtain ⟨arguments, -, h⟩ := h
  exact create h (by simp [Draft.parts, presentExprs])

theorem zeroConstant {f : Field} {e : Expr} (h : f.zeroConstant = .ok e) :
    Assembled unchecked (.expression e) := by
  simp only [Field.zeroConstant, bind_eq_ok_iff] at h
  obtain ⟨zero, hzero, h⟩ := h
  exact call h (by simpa [Draft.parts, presentExprs] using literal hzero)

theorem emptyMessage {f : Field} {e : Expr} (h : f.emptyMessage = .ok e) :
    Assembled unchecked (.expression e) := by
  simp only [Field.emptyMessage, bind_eq_ok_iff] at h
  obtain ⟨builderType, -, builder, hbuilder, h⟩ := h
  have hassembled : Assembled unchecked (.expression builder) :=
    call hbuilder (by simp [Draft.parts, presentExprs])
  exact call h (by simpa [Draft.parts, presentExprs] using hassembled)

theorem emptyBytes {e : Expr} (h : Field.emptyBytes = .ok e) :
    Assembled unchecked (.expression e) := by
  simp only [Field.emptyBytes, bind_eq_ok_iff, pure_eq_ok_iff] at h
  obtain ⟨empty, -, v, hv, rfl⟩ := h
  have hassembled : Assembled unchecked (.var v) :=
    .build (.var _) (by rw [Draft.build, hv]; rfl) (by simp [Draft.parts])
  exact .make (.ofVar v) (by simpa using hassembled)

theorem scalar {f : Field} {e : Expr} (h : f.scalar = .ok e) :
    Assembled unchecked (.expression e) := by
  simp only [Field.scalar] at h
  split at h
  · cases h
    exact .make (.value (.string _)) (by simp)
  · split at h
    · simp only [bind_eq_ok_iff, pure_eq_ok_iff] at h
      obtain ⟨l, hl, rfl⟩ := h
      exact literal hl
    · split at h
      · simp only [bind_eq_ok_iff, pure_eq_ok_iff] at h
        obtain ⟨l, hl, rfl⟩ := h
        exact literal hl
      · split at h
        · exact emptyBytes h
        · cases h

theorem placeholder {f : Field} {useExplicit : Bool} {e : Expr}
    (h : f.placeholder useExplicit = .ok e) : Assembled unchecked (.expression e) := by
  unfold Field.placeholder at h
  split at h
  · exact emptyCollection h
  · split at h
    · exact zeroConstant h
    · split at h
      · exact emptyMessage h
      · exact scalar h

theorem setOn {builderType : JavaType} {builder e : Expr} {f : Field}
    (hbuilder : Assembled unchecked (.expression builder))
    (h : f.setOn builderType builder = .ok e) :
    Assembled unchecked (.expression e) := by
  simp only [Field.setOn, bind_eq_ok_iff] at h
  obtain ⟨value, hvalue, h⟩ := h
  exact call h (by simpa [Draft.parts, presentExprs] using ⟨hbuilder, placeholder hvalue⟩)

/-- Every field is set on what the fields before it have led to. -/
theorem foldlM_setOn {builderType : JavaType} {builder e : Expr} {fs : List Field}
    (hbuilder : Assembled unchecked (.expression builder))
    (h : fs.foldlM (Field.setOn builderType) builder = .ok e) :
    Assembled unchecked (.expression e) := by
  induction fs generalizing builder with
  | nil =>
    cases h
    exact hbuilder
  | cons f fs ih =>
    simp only [List.foldlM_cons, bind_eq_ok_iff] at h
    obtain ⟨next, hnext, h⟩ := h
    exact ih (setOn hbuilder hnext) h

theorem sample {m : Message} {known : List String} {e : Expr} (h : m.sample known = .ok e) :
    Assembled unchecked (.expression e) := by
  simp only [Message.sample, bind_eq_ok_iff] at h
  obtain ⟨builderType, -, newBuilder, hnew, builder, hbuilder, h⟩ := h
  have hassembled : Assembled unchecked (.expression newBuilder) :=
    call hnew (by simp [Draft.parts, presentExprs])
  exact call h (by simpa [Draft.parts, presentExprs] using foldlM_setOn hassembled hbuilder)

end Assembled

/-- Taking apart, rebuilding and composing lead to nothing that constructions alone do not. -/
theorem Reached.assembled {n : Node} (h : Reached unchecked n) : Assembled unchecked n := by
  induction h with
  | make hmade _ ih => exact .make hmade ih
  | part _ hc ih => exact ih.child hc
  | @rebuild original n draft changed _ hdraft _ h ihoriginal ihparts =>
    -- A part that the draft already had lies in the original, and the others are obtainable.
    refine .build changed h fun p hp => ?_
    by_cases hold : p ∈ draft.parts
    · rw [Node.parts_of_toDraft? hdraft] at hold
      exact ihoriginal.child hold
    · exact ihparts p hp hold
  | placeholder h => exact .placeholder h
  | sample h => exact .sample h

/-- What holds of every constructed node, whatever its parts are, holds of every node anywhere in
one that is reached. -/
theorem Reached.everywhere {P : Node → Prop}
    (hP : ∀ {parts : List Node} {n : Node}, Made unchecked parts n → P n) {n m : Node}
    (hn : Reached unchecked n) (hm : m.Within n) : P m := by
  -- The induction is on the way down to the part, so it needs a form of the hypothesis that goes
  -- down with it.
  have hassembled := hn.assembled
  clear hn
  induction hm with
  | self =>
    cases hassembled with
    | make hmade _ => exact hP hmade
  | child hc _ ih => exact ih (hassembled.child hc)

end JavaSyntax
