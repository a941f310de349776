import JavaSyntax.Proofs.Construction.Obtainable

/-!
# No obtainable node breaks a rule

The rules for all nodes, each about a node and the types of what it holds directly, and never about
how it came about. Every construction obeys them, so they hold everywhere in an obtainable node, and
in particular every class in it is well formed. One rule is for callers who leave every type to be
checked: only for them is the type of a keyword or constant always a class.
-/

set_option autoImplicit false

namespace JavaSyntax

/-! ## The rules -/

/-- The type that has been given to a keyword or constant, if a value is one. -/
def Value.givenType? : Value → Option JavaType
  | this t | super t | constant t _ => some t
  | literal _ | string _ | null => none

/-- The rules for statements. -/
inductive Statement.Lawful : Statement → Prop
  | expression {e : Expr}
    (heffect : e.form ∈ [Form.call, .assignment, .create, .delegation] ∨
      ∃ d, e.declaration? = some d) : Lawful (.expression e)
  | block (isStatic : Bool) (body : List Statement) : Lawful (.block isStatic body)
  | conditional {s : Statement} {draft : ConditionalDraft}
    (hdraft : s.toConditionalDraft? = some draft) (hlawful : draft.Lawful) : Lawful s
  | forEach {item : Declaration} {collection : Expr} {body : List Statement}
    (hcollection : collection.type.isIterable = true) : Lawful (.forEach item collection body)
  | whileLoop {condition : Expr} {body : List Statement}
    (hcondition : condition.type.isBoolean = true) : Lawful (.whileLoop condition body)
  | tryCatch {s : Statement} {draft : TryDraft} (hdraft : s.toTryDraft? = some draft)
    (hlawful : draft.Lawful) : Lawful s
  | comment (c : Comment) : Lawful (.comment c)
  | emptyLine : Lawful .emptyLine

section

-- Whether keywords and constants may have been given a type by hand.
variable (unchecked : Bool)

/-- The rules for expressions. A variable or an assignment is a node of its own, with the rules for
such nodes. -/
inductive Expr.Lawful : Expr → Prop
  | value {v : Value} (hclass : unchecked = false → ∀ t ∈ v.givenType?, t.IsClass) :
    Lawful (.value v)
  | var (v : VariableExpr) : Lawful (.var v)
  | ternary {condition whenTrue whenFalse : Expr} (hcondition : condition.type.isBoolean = true)
    (hbranches : whenTrue.type.accepts whenFalse.type = true ∨
      whenFalse.type.accepts whenTrue.type = true) :
    Lawful (.ternary condition whenTrue whenFalse)
  | assignment (target : VariableExpr) (source : Expr) : Lawful (.assignment target source)
  | call {e : Expr} {draft : CallDraft} (hdraft : e.toCallDraft? = some draft)
    (hlawful : draft.Lawful) : Lawful e
  | create {type : Reference} {arguments : List Expr} {isDiamond : Bool}
    (hclass : (JavaType.ofReference type).IsClass) : Lawful (.create type arguments isDiamond)
  | cast {type : JavaType} {operand : Expr}
    (hvoid : type.isVoid = false ∧ operand.type.isVoid = false)
    (hmixed : operand.type.isPrimitive = true → type.isPrimitive = true →
      operand.type.isBoolean = type.isBoolean) : Lawful (.cast type operand)
  | instanceOf {operand : Expr} {type : JavaType} (hoperand : operand.type.isReference = true)
    (htype : type.isReference = true ∧ type.isNull = false) : Lawful (.instanceOf operand type)
  | comparison {operator : Comparison} {left right : Expr}
    (hvoid : left.type.isVoid = false ∧ right.type.isVoid = false)
    (hcomparable : JavaType.Comparable left.type right.type) :
    Lawful (.comparison operator left right)
  | anonymousClass {type : Reference} {statements : List Statement} {methods : List Method}
    (hclass : (JavaType.ofReference type).IsClass) :
    Lawful (.anonymousClass type statements methods)
  | delegation {target : Delegate} {type : Reference} {arguments : List Expr}
    (hclass : (JavaType.ofReference type).IsClass) : Lawful (.delegation target type arguments)

/-- The rules for nodes. -/
inductive Node.Lawful : Node → Prop
  | var {v : VariableExpr} (hlawful : v.toDraft.Lawful) : Lawful (.var v)
  | assignment {a : Assignment} (haccepts : a.target.type.accepts a.source.type = true) :
    Lawful (.assignment a)
  | expression {e : Expr} (hlawful : e.Lawful unchecked) : Lawful (.expression e)
  | statement {s : Statement} (hlawful : s.Lawful) : Lawful (.statement s)
  | method (m : Method) : Lawful (.method m)
  | definition {c : ClassDefinition} (hwellFormed : c.toDraft.WellFormed) : Lawful (.definition c)

end

/-- The rules for what a node is built from. What a node holds is settled once it is there, and so
two receivers can only be seen here. -/
def Draft.Lawful : Draft → Prop
  | var d => d.Lawful
  | call d => d.Lawful
  | conditional d => d.Lawful
  | tryCatch d => d.Lawful
  | definition d => d.WellFormed
  | create _ | anonymousClass _ | method _ => True

/-! ## Constructions obey the rules -/

variable {unchecked : Bool}

/-- No type is given to a keyword or constant but that of a class, unless by hand. -/
theorem Value.Made.isClass {v : Value} (h : Value.Made false v) {t : JavaType}
    (ht : t ∈ v.givenType?) : t.IsClass := by
  cases h with
  | literal | string | null => cases ht
  | this h =>
    obtain ⟨hclass, rfl⟩ := ofThis_eq_ok_iff.1 h
    cases ht
    exact hclass
  | super h =>
    obtain ⟨hclass, rfl⟩ := ofSuper_eq_ok_iff.1 h
    cases ht
    exact hclass
  | constant h =>
    obtain ⟨hclass, name, -, rfl⟩ := ofConstant_eq_ok_iff.1 h
    cases ht
    exact hclass
  | uncheckedThis h | uncheckedSuper h | uncheckedConstant h => cases h

theorem Draft.Lawful.of_build {draft : Draft} {n : Node} (h : draft.build = .ok n) :
    draft.Lawful := by
  cases draft with
  | var d =>
    obtain ⟨v, hv, -⟩ := map_eq_ok_iff.1 h
    exact (VariableDraft.build_eq_ok_iff.1 hv).1
  | call d =>
    obtain ⟨e, he, -⟩ := map_eq_ok_iff.1 h
    exact (CallDraft.build_eq_ok_iff.1 he).1
  | conditional d =>
    obtain ⟨s, hs, -⟩ := map_eq_ok_iff.1 h
    exact (ConditionalDraft.build_eq_ok_iff.1 hs).1
  | tryCatch d =>
    obtain ⟨s, hs, -⟩ := map_eq_ok_iff.1 h
    exact (TryDraft.build_eq_ok_iff.1 hs).1
  | definition d =>
    obtain ⟨c, hc, -⟩ := map_eq_ok_iff.1 h
    exact (ClassDraft.build_eq_ok_iff.1 hc).1
  | create | anonymousClass | method => trivial

theorem Draft.lawful_of_build {draft : Draft} {n : Node} (h : draft.build = .ok n) :
    n.Lawful unchecked := by
  cases draft with
  | var d =>
    obtain ⟨v, hv, rfl⟩ := map_eq_ok_iff.1 h
    exact .var (VariableDraft.lawful_toDraft hv)
  | call d =>
    obtain ⟨e, he, rfl⟩ := map_eq_ok_iff.1 h
    obtain ⟨hlawful, hdraft⟩ := CallDraft.build_eq_ok_iff.1 he
    exact .expression (.call hdraft (CallDraft.lawful_completed.2 hlawful))
  | create d =>
    obtain ⟨e, he, rfl⟩ := map_eq_ok_iff.1 h
    obtain ⟨type, arguments, rfl, -, hclass, -⟩ := CreateDraft.build_eq_ok_iff.1 he
    exact .expression (.create hclass)
  | anonymousClass d =>
    obtain ⟨e, he, rfl⟩ := map_eq_ok_iff.1 h
    obtain ⟨type, ss, ms, rfl, -, hclass, -, -⟩ := AnonymousClassDraft.of_build he
    exact .expression (.anonymousClass hclass)
  | conditional d =>
    obtain ⟨s, hs, rfl⟩ := map_eq_ok_iff.1 h
    obtain ⟨hlawful, hdraft⟩ := ConditionalDraft.build_eq_ok_iff.1 hs
    exact .statement (.conditional hdraft hlawful)
  | tryCatch d =>
    obtain ⟨s, hs, rfl⟩ := map_eq_ok_iff.1 h
    obtain ⟨hlawful, hdraft⟩ := TryDraft.build_eq_ok_iff.1 hs
    exact .statement (.tryCatch hdraft hlawful)
  | method d =>
    obtain ⟨m, -, rfl⟩ := map_eq_ok_iff.1 h
    exact .method m
  | definition d =>
    obtain ⟨c, hc, rfl⟩ := map_eq_ok_iff.1 h
    obtain ⟨hwellFormed, rfl⟩ := ClassDraft.build_eq_ok_iff.1 hc
    exact .definition hwellFormed

/-- Whatever its parts are, what a construction makes obeys the rules. -/
theorem Made.lawful {parts : List Node} {n : Node} (h : Made unchecked parts n) :
    n.Lawful unchecked := by
  cases h with
  | value h =>
    refine .expression (.value fun hchecked t ht => ?_)
    subst hchecked
    exact h.isClass ht
  | ofVariable v =>
    exact .var (VariableDraft.lawful_toDraft (VariableExpr.build_toDraft_ofVariable v))
  | declare v => exact .var (VariableDraft.lawful_toDraft (VariableExpr.build_toDraft_declare v))
  | ofVar v => exact .expression (.var v)
  | assignment h =>
    obtain ⟨haccepts, rfl⟩ := Assignment.make_eq_ok_iff.1 h
    exact .assignment haccepts
  | ofAssignment a => exact .expression (.assignment _ _)
  | ternary h =>
    obtain ⟨hcondition, hbranches, rfl⟩ := Expr.mkTernary_eq_ok_iff.1 h
    exact .expression (.ternary hcondition hbranches)
  | cast h =>
    obtain ⟨htype, hoperand, hmixed, rfl⟩ := Expr.mkCast_eq_ok_iff.1 h
    exact .expression (.cast ⟨htype, hoperand⟩ hmixed)
  | instanceOf h =>
    obtain ⟨hoperand, htype, hnull, rfl⟩ := Expr.mkInstanceOf_eq_ok_iff.1 h
    exact .expression (.instanceOf hoperand ⟨htype, hnull⟩)
  | comparison h =>
    obtain ⟨⟨hleft, hright, hcomparable⟩, rfl⟩ := Expr.mkComparison_eq_ok_iff.1 h
    exact .expression (.comparison ⟨hleft, hright⟩ hcomparable)
  | delegation h =>
    obtain ⟨type, present, rfl, rfl, hclass, -⟩ := Expr.mkDelegation_eq_ok_iff.1 h
    exact .expression (.delegation hclass)
  | expression h =>
    obtain ⟨heffect, rfl⟩ := Statement.mkExpression_eq_ok_iff.1 h
    exact .statement (.expression (Expr.hasEffect_iff.1 heffect))
  | block h =>
    obtain ⟨present, -, rfl⟩ := Statement.mkBlock_eq_ok_iff.1 h
    exact .statement (.block _ present)
  | forEach h =>
    obtain ⟨d, present, -, hcollection, -, rfl⟩ := Statement.mkForEach_eq_ok_iff.1 h
    exact .statement (.forEach hcollection)
  | whileLoop h =>
    obtain ⟨hcondition, present, -, rfl⟩ := Statement.mkWhileLoop_eq_ok_iff.1 h
    exact .statement (.whileLoop hcondition)
  | comment c => exact .statement (.comment c)
  | emptyLine => exact .statement .emptyLine
  | build h => exact Draft.lawful_of_build h

/-! ## What holds everywhere -/

/-- No malformed node can be obtained: whatever calls a node comes from, every node anywhere in it
obeys its rules. A draft that breaks a rule is refused, and so is a loop that declares no
variable. -/
theorem lawful_of_obtainable :
    (∀ (unchecked : Bool) (n m : Node), Reached unchecked n → m.Within n → m.Lawful unchecked) ∧
    (∀ (draft : Draft) n, draft.build = .ok n → draft.Lawful) ∧
    ∀ item collection body s, Statement.mkForEach item collection body = .ok s →
      ∃ d, item = .declaration d := by
  refine ⟨fun unchecked n m hn hm => hn.everywhere Made.lawful hm,
    fun draft n h => .of_build h, fun item collection body s h => ?_⟩
  obtain ⟨d, -, hitem, -⟩ := Statement.mkForEach_eq_ok_iff.1 h
  exact ⟨d, hitem⟩

/-- The declaration of a variable, as a statement of its own. -/
def Statement.declare (v : Variable) : Statement := .expression (.var (.declare v))

theorem reached_declare (v : Variable) : Reached unchecked (.statement (.declare v)) := by
  have hvar : Reached unchecked (.var (.declare v)) := .make (.declare v) (by simp)
  have hexpr : Reached unchecked (.expression (.var (.declare v))) :=
    .make (.ofVar _) (by simpa using hvar)
  exact .make (.expression rfl) (by simpa using hexpr)

/-- In `while (this.isEmpty()) { int count; }`, whose `this` is checked to be one of a class `Box`,
`this` and its call are lawful. -/
theorem lawful_of_obtainable_loop :
    let box : JavaType := .ofReference (.compiled ⟨[], [], { text := "Box" }⟩ [] [] false)
    let count : Variable := ⟨{ text := "count" }, .ofPrimitive .int, rfl⟩
    let self : Expr := .value (.this box)
    let empty : Expr := .call { text := "isEmpty" } (.object self) [] [] .boolean
    let loop : Statement := .whileLoop empty [.declare count]
    Reached false (.statement loop) ∧
      (Node.expression empty).Within (.statement loop) ∧
      (Node.expression empty).Lawful false ∧
      (Node.expression self).Within (.statement loop) ∧
      (Node.expression self).Lawful false := by
  intro box count self empty loop
  have hchecked : Value.ofThis box = .ok (.this box) := rfl
  have hself : Reached false (.expression self) := .make (.value (.this hchecked)) (by simp)
  have hbuild : Draft.build (.call
      { name := some "isEmpty"
        object := some self
        returnType := some .boolean }) = .ok (.expression empty) := rfl
  have hempty : Reached false (.expression empty) :=
    .make (.build hbuild) (by simpa [Draft.parts, presentExprs] using hself)
  have hcount : Reached false (.statement (.declare count)) := reached_declare count
  have hmake : Statement.mkWhileLoop empty [some (.declare count)] = .ok loop := rfl
  have hloop : Reached false (.statement loop) :=
    .make (.whileLoop hmake) (by simpa [presentStatements] using ⟨hempty, hcount⟩)
  have hcall : (Node.expression empty).Within (.statement loop) := .child List.mem_cons_self .self
  have hthis : (Node.expression self).Within (.statement loop) :=
    .child List.mem_cons_self (.child List.mem_cons_self .self)
  obtain ⟨hlawful, -⟩ := lawful_of_obtainable
  exact ⟨hloop, hcall, hlawful false _ _ hloop hcall, hthis, hlawful false _ _ hloop hthis⟩

/-- The statement `int count;` is obtainable, and is none of the forms that have an effect when
they are evaluated. So is an object of type `int` that `this` stands for. -/
theorem obtainable_int_count_and_int_this :
    let count : Variable := ⟨{ text := "count" }, .ofPrimitive .int, rfl⟩
    let declared : Expr := .var (.declare count)
    let self : Expr := .value (.this (.ofPrimitive .int))
    Obtainable (.statement (.expression declared)) ∧
      declared.form ∉ [Form.call, .assignment, .create, .delegation] ∧
      Obtainable (.expression self) ∧ ¬ self.type.IsClass := by
  intro count declared self
  have hself : Obtainable (.expression self) := .make (.value (.uncheckedThis rfl _)) (by simp)
  exact ⟨reached_declare count, by decide, hself, fun hclass => absurd hclass.1 (by decide)⟩

/-- A class is accepted exactly if it is well formed, and so every class at any depth of what can be
obtained is well formed. -/
theorem ClassDraft.build_iff_wellFormed :
    (∀ draft : ClassDraft, (∃ c, draft.build = .ok c) ↔ draft.WellFormed) ∧
    ∀ (n : Node) (c : ClassDefinition), Obtainable n → (Node.definition c).Within n →
      c.toDraft.WellFormed := by
  refine ⟨fun draft => ⟨?_, fun hwellFormed => ?_⟩, fun n c hn hc => ?_⟩
  · rintro ⟨c, hc⟩
    exact (build_eq_ok_iff.1 hc).1
  · obtain ⟨c, hc⟩ := exists_toDraft_eq hwellFormed
    exact ⟨c, build_eq_ok_iff.2 ⟨hwellFormed, hc⟩⟩
  · have hlawful : (Node.definition c).Lawful true := hn.everywhere Made.lawful hc
    cases hlawful with
    | definition hwellFormed => exact hwellFormed

/-- A class `Shapes` with a field and a nested class `Circle`: both are well formed. -/
theorem ClassDraft.build_iff_wellFormed_nested :
    let side : Variable := ⟨{ text := "side" }, .ofPrimitive .int, rfl⟩
    let header (placement : Placement) (name : Identifier) : ClassHeader :=
      ⟨[], [], placement, {}, name, none, []⟩
    let circle : ClassDefinition := ⟨header .nested { text := "Circle" }, [], [], []⟩
    let shapes : ClassDefinition :=
      ⟨header (.topLevel [{ text := "com" }]) { text := "Shapes" }, [.declare side], [], [circle]⟩
    Obtainable (.definition shapes) ∧ (Node.definition circle).Within (.definition shapes) ∧
      shapes.toDraft.WellFormed ∧ circle.toDraft.WellFormed := by
  intro side header circle shapes
  have hcircleBuild : Draft.build (.definition { isNested := true, name := some "Circle" })
      = .ok (.definition circle) := rfl
  have hshapesBuild : Draft.build (.definition
      { package := some "com"
        name := some "Shapes"
        statements := [some (.declare side)]
        nested := [some circle] }) = .ok (.definition shapes) := rfl
  have hcircle : Obtainable (.definition circle) :=
    .make (.build hcircleBuild) (by simp [Draft.parts, presentStatements])
  have hside : Obtainable (.statement (.declare side)) := reached_declare side
  have hshapes : Obtainable (.definition shapes) :=
    .make (.build hshapesBuild) (by simpa [Draft.parts, presentStatements] using ⟨hside, hcircle⟩)
  have hself : (Node.definition shapes).Within (.definition shapes) := .self
  have hwithin : (Node.definition circle).Within (.definition shapes) :=
    .child (List.mem_append_right _ List.mem_cons_self) .self
  obtain ⟨-, hwellFormed⟩ := build_iff_wellFormed
  exact ⟨hshapes, hwithin, hwellFormed _ _ hshapes hself, hwellFormed _ _ hshapes hwithin⟩

end JavaSyntax
