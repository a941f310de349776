import JavaSyntax.Statement.Draft
import JavaSyntax.Statement.Simple

/-!
# Which statements can be constructed

For each kind of statement, what its construction accepts and what it makes of it. A draft of a
conditional or `try` is accepted exactly if it is lawful, and what is built has this draft as its
own.
-/

set_option autoImplicit false

namespace JavaSyntax

/-! ## Conditionals -/

namespace ConditionalDraft

/-- The rules for a conditional: every condition is a truth value. -/
structure Lawful (draft : ConditionalDraft) : Prop where
  condition : ∀ c ∈ draft.condition, c.type.isBoolean = true
  elseIfs : ∀ branch ∈ draft.elseIfs, branch.1.type.isBoolean = true

theorem buildElseIf_eq_ok_iff {branch : Expr × List (Option Statement)} {b : Branch} :
    buildElseIf branch = .ok b ↔
      branch = (b.condition, b.body.map some) ∧ b.condition.type.isBoolean = true := by
  obtain ⟨condition, body⟩ := branch
  obtain ⟨condition', body'⟩ := b
  simp only [buildElseIf, bind_eq_ok_iff, exists_unit_iff, checkCondition_eq_ok_iff,
    withoutGaps_eq_ok_iff, pure_eq_ok_iff, Prod.mk.injEq]
  constructor
  · rintro ⟨hcondition, present, rfl, heq⟩
    cases heq
    exact ⟨⟨rfl, rfl⟩, hcondition⟩
  · rintro ⟨⟨rfl, rfl⟩, hcondition⟩
    exact ⟨hcondition, body', rfl, rfl⟩

/-- A conditional is built exactly from its own draft, if this is lawful. -/
theorem build_eq_ok_iff {draft : ConditionalDraft} {s : Statement} :
    draft.build = .ok s ↔ draft.Lawful ∧ s.toConditionalDraft? = some draft := by
  obtain ⟨condition, body, elseIfs, otherwise⟩ := draft
  simp only [build, bind_eq_ok_iff, exists_unit_iff, given_eq_ok_iff, checkCondition_eq_ok_iff,
    withoutGaps_eq_ok_iff, mapM_eq_ok_iff fun _ _ => buildElseIf_eq_ok_iff, pure_eq_ok_iff]
  constructor
  · rintro ⟨c, rfl, hc, others, ⟨rfl, hothers⟩, body, rfl, otherwise, rfl, rfl⟩
    exact ⟨⟨by simpa using hc, by simpa using hothers⟩, rfl⟩
  · rintro ⟨hlawful, hs⟩
    cases s with
    | conditional first others otherwise =>
      obtain ⟨condition, body⟩ := first
      simp only [Statement.toConditionalDraft?, Option.some.injEq, ConditionalDraft.mk.injEq] at hs
      obtain ⟨rfl, rfl, rfl, rfl⟩ := hs
      have hothers : ∀ b ∈ others, b.condition.type.isBoolean = true := by
        simpa using hlawful.elseIfs
      exact ⟨_, rfl, hlawful.condition _ rfl, others, ⟨rfl, hothers⟩, _, rfl, _, rfl, rfl⟩
    | _ => cases hs

end ConditionalDraft

/-! ## Exceptions -/

namespace TryDraft

/-- The rules for a `try`. -/
structure Lawful (draft : TryDraft) : Prop where
  /-- A resource is bound to a variable that is declared there. -/
  resource : ∀ a ∈ draft.resource, ∃ d, a.target = .declaration d
  /-- Code declares the variable in which it catches, with the type of an exception. -/
  executable : draft.isSample = false →
    ∃ d, draft.caught = some (.declaration d) ∧ d.type.isException = true
  /-- A sample that catches nothing does nothing about it. -/
  sample : draft.isSample = true → draft.caught = none → draft.handler = []

theorem buildResource_eq_ok_iff {assignment : Option Assignment} {resource : Resource} :
    buildResource assignment = .ok resource ↔ resource.assignment? = assignment := by
  constructor
  · intro h
    rcases assignment with _ | ⟨_ | _, source⟩ <;> cases h <;> rfl
  · rintro rfl
    cases resource <;> rfl

theorem exists_target_eq_declaration {resource : Resource} :
    ∀ a ∈ resource.assignment?, ∃ d, a.target = .declaration d := by
  intro a ha
  cases resource with
  | absent => cases ha
  | binding d source =>
    cases ha
    exact ⟨d, rfl⟩

theorem buildSample_eq_ok_iff {caught : Option VariableExpr} {body : List Statement}
    {handler : Handler} :
    buildSample caught body = .ok handler ↔
      handler.isSample = true ∧ handler.caught? = caught ∧ handler.body = body := by
  constructor
  · intro h
    unfold buildSample at h
    split at h
    · cases h
      exact ⟨rfl, rfl, rfl⟩
    · split at h
      · next hempty =>
        cases h
        exact ⟨rfl, rfl, (List.isEmpty_iff.1 hempty).symm⟩
      · cases h
  · rintro ⟨hsample, rfl, rfl⟩
    cases handler <;> first | rfl | cases hsample

theorem buildExecutable_eq_ok_iff {caught : Option VariableExpr} {body : List Statement}
    {handler : Handler} :
    buildExecutable caught body = .ok handler ↔
      ∃ d, caught = some (.declaration d) ∧ d.type.isException = true ∧
        handler = .executable d body := by
  simp only [buildExecutable, bind_eq_ok_iff, given_eq_ok_iff]
  constructor
  · rintro ⟨v, rfl, h⟩
    cases v with
    | use v receiver => cases h
    | declaration d =>
      simp only [bind_eq_ok_iff, exists_unit_iff, require_eq_ok_iff, pure_eq_ok_iff] at h
      exact ⟨d, rfl, h.1, h.2.symm⟩
  · rintro ⟨d, rfl, hexception, rfl⟩
    refine ⟨_, rfl, ?_⟩
    simp only [bind_eq_ok_iff, exists_unit_iff, require_eq_ok_iff, pure_eq_ok_iff]
    exact ⟨hexception, trivial⟩

/-- A `try` is built exactly from its own draft, if this is lawful. -/
theorem build_eq_ok_iff {draft : TryDraft} {s : Statement} :
    draft.build = .ok s ↔ draft.Lawful ∧ s.toTryDraft? = some draft := by
  obtain ⟨assignment, body, caught, handled, isSample⟩ := draft
  -- A sample and code have rules of their own, so both directions look at the mark first.
  constructor
  · intro h
    cases isSample with
    | true =>
      simp only [build, reduceIte, bind_eq_ok_iff, withoutGaps_eq_ok_iff, buildResource_eq_ok_iff,
        buildSample_eq_ok_iff, pure_eq_ok_iff] at h
      obtain ⟨body, rfl, handled, rfl, resource, rfl, handler, ⟨hsample, rfl, rfl⟩, rfl⟩ := h
      refine ⟨⟨exists_target_eq_declaration, by simp, fun _ hcaught => ?_⟩, ?_⟩
      · cases handler <;> first | rfl | cases hcaught
      · simp [Statement.toTryDraft?, hsample]
    | false =>
      simp only [build, Bool.false_eq_true, reduceIte, bind_eq_ok_iff, withoutGaps_eq_ok_iff,
        buildResource_eq_ok_iff, buildExecutable_eq_ok_iff, pure_eq_ok_iff] at h
      obtain ⟨body, rfl, handled, rfl, resource, rfl, _, ⟨d, rfl, hexception, rfl⟩, rfl⟩ := h
      exact ⟨⟨exists_target_eq_declaration, fun _ => ⟨d, rfl, hexception⟩, by simp⟩, rfl⟩
  · rintro ⟨hlawful, hs⟩
    cases s with
    | tryCatch resource body handler =>
      simp only [Statement.toTryDraft?, Option.some.injEq, TryDraft.mk.injEq] at hs
      obtain ⟨rfl, rfl, rfl, rfl, rfl⟩ := hs
      cases hsample : handler.isSample with
      | true =>
        simp only [build, reduceIte, bind_eq_ok_iff, withoutGaps_eq_ok_iff,
          buildResource_eq_ok_iff, buildSample_eq_ok_iff, pure_eq_ok_iff]
        exact ⟨body, rfl, handler.body, rfl, resource, rfl, handler, ⟨hsample, rfl, rfl⟩, rfl⟩
      | false =>
        simp only [build, Bool.false_eq_true, reduceIte, bind_eq_ok_iff, withoutGaps_eq_ok_iff,
          buildResource_eq_ok_iff, buildExecutable_eq_ok_iff, pure_eq_ok_iff]
        obtain ⟨d, hcaught, hexception⟩ := hlawful.executable hsample
        have hhandler : handler = .executable d handler.body := by
          cases handler <;> cases hcaught <;> first | rfl | cases hsample
        exact ⟨body, rfl, handler.body, rfl, resource, rfl, handler,
          ⟨d, hcaught, hexception, hhandler⟩, rfl⟩
    | _ => cases hs

end TryDraft

/-! ## Simple statements and loops -/

namespace Expr

/-- What has an effect of its own. -/
theorem hasEffect_iff {e : Expr} :
    e.hasEffect = true ↔
      e.form ∈ [Form.call, .assignment, .create, .delegation] ∨ ∃ d, e.declaration? = some d := by
  cases e <;> simp [hasEffect, form, declaration?, Option.isSome_iff_exists]

end Expr

namespace Statement

theorem mkExpression_eq_ok_iff {e : Expr} {s : Statement} :
    mkExpression e = .ok s ↔ e.hasEffect = true ∧ .expression e = s := by
  simp only [mkExpression, bind_eq_ok_iff, exists_unit_iff, require_eq_ok_iff, pure_eq_ok_iff]

theorem mkBlock_eq_ok_iff {isStatic : Bool} {body : List (Option Statement)} {s : Statement} :
    mkBlock isStatic body = .ok s ↔
      ∃ present, body = present.map some ∧ .block isStatic present = s := by
  simp only [mkBlock, bind_eq_ok_iff, withoutGaps_eq_ok_iff, pure_eq_ok_iff]

theorem mkForEach_eq_ok_iff {item : VariableExpr} {collection : Expr}
    {body : List (Option Statement)} {s : Statement} :
    mkForEach item collection body = .ok s ↔
      ∃ d present, item = .declaration d ∧ collection.type.isIterable = true ∧
        body = present.map some ∧ .forEach d collection present = s := by
  cases item with
  | use v receiver => simp [mkForEach, reject]
  | declaration d =>
    simp only [mkForEach, bind_eq_ok_iff, exists_unit_iff, require_eq_ok_iff,
      withoutGaps_eq_ok_iff, pure_eq_ok_iff]
    constructor
    · rintro ⟨hiterable, present, rfl, rfl⟩
      exact ⟨d, present, rfl, hiterable, rfl, rfl⟩
    · rintro ⟨d, present, heq, hiterable, rfl, rfl⟩
      cases heq
      exact ⟨hiterable, present, rfl, rfl⟩

theorem mkWhileLoop_eq_ok_iff {condition : Expr} {body : List (Option Statement)} {s : Statement} :
    mkWhileLoop condition body = .ok s ↔
      condition.type.isBoolean = true ∧
        ∃ present, body = present.map some ∧ .whileLoop condition present = s := by
  simp only [mkWhileLoop, bind_eq_ok_iff, exists_unit_iff, checkCondition_eq_ok_iff,
    withoutGaps_eq_ok_iff, pure_eq_ok_iff]

end Statement

end JavaSyntax
