import JavaSyntax.Text.Escaped

/-!
# Rejections

Why a construction was refused, and the node whose construction it was. A cause is data: the
wording of every message and tip is in this module, in `Problem.text`, `Cause.text` and
`Rejection.tip?`.
-/

set_option autoImplicit false

namespace JavaSyntax

/-! ## What can be wrong with one field -/

/-- What is wrong with one field of a node. Names and types are held as they are displayed. -/
inductive Problem where
  /-- A required field was not given. -/
  | unset
  /-- A text that must have characters has none. -/
  | empty
  /-- A list of a builder has this many gaps. -/
  | gaps (field : String) (count : Nat)
  /-- A name is reserved by the language. -/
  | reservedWord (name : String)
  /-- A text does not have the form of an identifier. -/
  | notIdentifier (name : String)
  /-- A text is no dotted name that ends in a chain of class names. -/
  | notQualifiedName (name : String)
  /-- A text is no simple class name. -/
  | notClassName (name : String)
  /-- A reference is placed in something that is no package. -/
  | notPackage (name : String)
  /-- A class is placed in something that is no package. -/
  | notPackageName (name : String)
  /-- A class type comes without its class. -/
  | classlessType
  /-- A type that is not a class comes with a class. -/
  | strayReference (keyword : String)
  /-- An array has no elements to hold. -/
  | voidArray
  /-- A type cannot annotate. -/
  | notAnnotationType (type : String)
  /-- A type is not a single class. -/
  | notClassType (type : String)
  /-- A type is not primitive. -/
  | notPrimitiveType (type : String)
  /-- A type is not primitive, or not an object at all. -/
  | notReferenceType (type : String)
  /-- A type cannot be thrown or caught. -/
  | notExceptionType (type : String)
  /-- A type is not the type of a message. -/
  | notMessage (type : String)
  /-- A text does not denote a value of a primitive type. -/
  | notLiteral (literal type : String)
  /-- A value that must be an object is not. -/
  | notObject (type : String)
  /-- A condition is not a truth value. -/
  | notCondition (type : String)
  /-- A loop runs over something without elements. -/
  | notIterable (type : String)
  /-- A value without members is used as a receiver. -/
  | notReceiver (type : String)
  /-- A type has no instances of its own. -/
  | notInstantiable (type : String)
  /-- A type cannot be the type behind an anonymous class. -/
  | notSubclassable (type : String)
  /-- A type cannot be a superclass. -/
  | notExtensible (type : String)
  /-- A type cannot be an implemented interface. -/
  | notImplementable (type : String)
  /-- A variable would hold nothing. -/
  | voidVariable (name : String)
  /-- A variable has two qualifiers. -/
  | twoQualifiers
  /-- A declaration has a qualifier. -/
  | qualifiedDeclaration (name : String)
  /-- A use of a variable has an access. -/
  | scopedUse (name : String)
  /-- A use of a variable has a modifier. -/
  | modifiedUse (name : String)
  /-- A use of a variable is annotated. -/
  | annotatedUse (name : String)
  /-- A call has two receivers. -/
  | twoReceivers
  /-- A call has type arguments but nothing to write them after. -/
  | genericsWithoutReceiver (method : String)
  /-- A call has an argument without a value. -/
  | voidArgument (form : String)
  /-- A cast reads or makes nothing. -/
  | voidCast
  /-- An expression of this form has no effect as a statement. -/
  | notStatement (form : String)
  /-- A loop reuses a variable. -/
  | undeclaredLoopVariable (name : String)
  /-- A resource is bound to a variable that exists already. -/
  | undeclaredResource (name : String)
  /-- An exception is caught in a variable that exists already. -/
  | undeclaredException (name : String)
  /-- An exception is handled but not caught. -/
  | catchBodyWithoutVariable
  /-- A parameter is not a declaration. -/
  | undeclaredParameter (name : String)
  /-- A constructor has nothing to construct. -/
  | constructorWithoutClass
  /-- A constructor is abstract or static. -/
  | modifiedConstructor (name : String)
  /-- A constructor returns a value. -/
  | constructorResult (name : String)
  /-- A constructor has a name other than its class. -/
  | misnamedConstructor (name type : String)
  /-- An anonymous class has a constructor. -/
  | constructorOfAnonymous (name : String)
  /-- A class has the constructor of another. -/
  | foreignConstructor (name owner : String)
  /-- An abstract method is static or final. -/
  | modifiedAbstract (name : String)
  /-- An abstract method has a body. -/
  | abstractBody (name : String)
  /-- A class that is not abstract has an abstract method. -/
  | abstractInConcrete (name : String)
  /-- A method without a result returns a value. -/
  | voidResult (name : String)
  /-- A method with a result returns no value. -/
  | missingResult (name type : String)
  /-- A nested class has a package of its own. -/
  | packagedNested (name : String)
  /-- A class that is not nested has no package. -/
  | unpackagedTopLevel (name : String)
  /-- A class that is not nested is static. -/
  | staticTopLevel (name : String)
  /-- A class that is not nested is hidden from its package. -/
  | hiddenTopLevel (name : String)
  /-- A class is both abstract and final. -/
  | abstractFinal (name : String)
  /-- A statement of this kind is not a member of a class. -/
  | notMember (kind : String)
  /-- A class inside another one is not marked as nested. -/
  | notNested (name : String)
  /-- A problem in the words of the caller. -/
  | stated (text : String)
  deriving DecidableEq, Repr

/-- The wording of a problem. -/
def Problem.text : Problem → String
  | .unset => "must be set"
  | .empty => "must not be empty"
  | .gaps field count => s!"{field} contains {count} missing element(s)"
  | .reservedWord name => s!"`{name}` is a reserved word"
  | .notIdentifier name => s!"`{name}` is not a valid identifier"
  | .notQualifiedName name => s!"`{name}` is not a fully qualified class name"
  | .notClassName name => s!"`{name}` is not a valid class name"
  | .notPackage name => s!"`{name}` is not a valid package"
  | .notPackageName name => s!"`{name}` is not a valid package name"
  | .classlessType => "reference types must name a class"
  | .strayReference keyword => s!"{keyword} types carry no reference"
  | .voidArray => "void arrays do not exist"
  | .notAnnotationType type => s!"`{type}` is not an annotation type"
  | .notClassType type => s!"`{type}` is not a class type"
  | .notPrimitiveType type => s!"`{type}` is not a primitive type"
  | .notReferenceType type => s!"`{type}` is not a reference type"
  | .notExceptionType type => s!"`{type}` is not an exception type"
  | .notMessage type => s!"`{type}` is not a message"
  | .notLiteral literal type => s!"`{literal}` is not a valid {type} literal"
  | .notObject type => s!"`{type}` values are not objects"
  | .notCondition type => s!"expected a boolean condition, found `{type}`"
  | .notIterable type => s!"cannot iterate over `{type}`"
  | .notReceiver type => s!"cannot dereference a value of type `{type}`"
  | .notInstantiable type => s!"cannot instantiate `{type}`"
  | .notSubclassable type => s!"cannot subclass `{type}`"
  | .notExtensible type => s!"cannot extend `{type}`"
  | .notImplementable type => s!"cannot implement `{type}`"
  | .voidVariable name => s!"`{name}` cannot have type void"
  | .twoQualifiers => "only one of an expression or a static type can qualify a variable"
  | .qualifiedDeclaration name => s!"declaration of `{name}` cannot be qualified"
  | .scopedUse name => s!"only declarations of `{name}` may carry a scope"
  | .modifiedUse name => s!"only declarations of `{name}` may be static or final"
  | .annotatedUse name => s!"only declarations of `{name}` may be annotated"
  | .twoReceivers => "only one of an expression or a static type can be the receiver"
  | .genericsWithoutReceiver method => s!"explicit generics on `{method}` need a receiver"
  | .voidArgument form => s!"a void {form} cannot be passed as an argument"
  | .voidCast => "void values cannot be cast"
  | .notStatement form => s!"{form} expressions cannot stand alone as statements"
  | .undeclaredLoopVariable name => s!"`{name}` must be declared by the loop"
  | .undeclaredResource name => s!"`{name}` must be declared by the resource binding"
  | .undeclaredException name => s!"`{name}` must be a declaration"
  | .catchBodyWithoutVariable => "a catch body needs a catch variable"
  | .undeclaredParameter name => s!"argument `{name}` must be a declaration"
  | .constructorWithoutClass => "constructors must return a class"
  | .modifiedConstructor name => s!"constructor `{name}` cannot be abstract or static"
  | .constructorResult name => s!"constructor `{name}` cannot return a value"
  | .misnamedConstructor name type => s!"constructor `{name}` must be named after `{type}`"
  | .constructorOfAnonymous name => s!"anonymous classes cannot declare constructor `{name}`"
  | .foreignConstructor name owner => s!"constructor `{name}` does not construct `{owner}`"
  | .modifiedAbstract name => s!"abstract method `{name}` cannot be static or final"
  | .abstractBody name => s!"abstract method `{name}` cannot have a body"
  | .abstractInConcrete name => s!"abstract method `{name}` in a concrete class"
  | .voidResult name => s!"void method `{name}` cannot return a value"
  | .missingResult name type => s!"method `{name}` must return a `{type}`"
  | .packagedNested name => s!"nested class `{name}` cannot declare a package"
  | .unpackagedTopLevel name => s!"top-level class `{name}` must have a package"
  | .staticTopLevel name => s!"top-level class `{name}` cannot be static"
  | .hiddenTopLevel name => s!"top-level class `{name}` must be public or package-private"
  | .abstractFinal name => s!"class `{name}` cannot be both abstract and final"
  | .notMember kind => s!"{kind} statements cannot appear in a class body"
  | .notNested name => s!"`{name}` must be marked as nested"
  | .stated text => text

/-! ## Causes -/

/-- Why a construction was refused. Types are held as they are displayed. -/
inductive Cause where
  /-- A field is missing or holds what it must not. -/
  | invalid (field : String) (problem : Problem)
  /-- An operator does not apply to operands of these types. -/
  | incompatible (operator left right : String)
  /-- No default value is known for a field of this type. -/
  | unsupportedField (field type : String)
  /-- A name is declared twice in one place. -/
  | redeclared (name : String)
  deriving DecidableEq, Repr

/-- The wording of a cause. Texts that may hold anything are shown escaped. -/
def Cause.text : Cause → String
  | .invalid field problem => s!"invalid {field}: {problem.text}"
  | .incompatible operator left right =>
    s!"incompatible operand types for {Text.escaped operator}: {left} and {right}"
  | .unsupportedField field type =>
    s!"default value for field {Text.escaped field} with type {type} is not supported"
  | .redeclared name => s!"{Text.escaped name} is already declared"

/-- The refusal of one construction. -/
structure Rejection where
  /-- The kind of node that was to be made. -/
  node : String
  cause : Cause
  deriving DecidableEq, Repr

/-- The message of a rejection. -/
def Rejection.message (r : Rejection) : String := s!"{r.cause.text} (while building {r.node})"

/-- A hint at what to change, if there is more to say than the message does. -/
def Rejection.tip? (r : Rejection) : Option String :=
  match r.cause with
  | .invalid field problem => some s!"Check the {field} of this {r.node}: {problem.text}"
  | .incompatible operator left right =>
    some s!"`{operator}` cannot be applied to `{left}` and `{right}`"
  | .unsupportedField field type =>
    some s!"No default value rule for field `{field}` of type `{type}`"
  | .redeclared _ => none

/-! ## Checked constructions -/

/-- The result of a construction that may be refused. -/
abbrev Checked (α : Type) := Except Rejection α

/-- Refuses a node because of one of its fields. -/
def reject {α : Type} (node field : String) (problem : Problem) : Checked α :=
  .error ⟨node, .invalid field problem⟩

/-- Refuses a node unless a condition on one of its fields holds. -/
def require (condition : Bool) (node field : String) (problem : Problem) : Checked Unit :=
  if condition then .ok () else reject node field problem

/-- The value of a field that must be given. -/
def given {α : Type} (node field : String) : Option α → Checked α
  | some value => .ok value
  | none => reject node field .unset

/-- The number of elements that are missing from a list. -/
def gapCount {α : Type} (items : List (Option α)) : Nat := items.countP Option.isNone

/-- The elements of a list that must have no gaps. -/
def withoutGaps {α : Type} (node field : String) (items : List (Option α)) : Checked (List α) :=
  if gapCount items = 0 then .ok (items.filterMap id)
  else reject node field (.gaps field (gapCount items))

/-- A construction in two steps succeeds exactly when both steps do. -/
theorem bind_eq_ok_iff {α β : Type} {x : Checked α} {f : α → Checked β} {b : β} :
    x >>= f = .ok b ↔ ∃ a, x = .ok a ∧ f a = .ok b := by
  constructor
  · intro h
    cases x with
    | error r => cases h
    | ok a => exact ⟨a, rfl, h⟩
  · rintro ⟨a, rfl, h⟩
    exact h

/-- What is made of a construction succeeds with it. -/
theorem map_eq_ok_iff {α β : Type} {f : α → β} {x : Checked α} {b : β} :
    f <$> x = .ok b ↔ ∃ a, x = .ok a ∧ f a = b := by
  cases x <;> simp [Functor.map, Except.map]

/-- What is made of a construction fails with it. -/
theorem map_eq_error_iff {α β : Type} {f : α → β} {x : Checked α} {r : Rejection} :
    f <$> x = .error r ↔ x = .error r := by
  cases x <;> simp [Functor.map, Except.map]

/-- What a check finds out is only that it succeeds. -/
theorem exists_unit_iff {p : Unit → Prop} : (∃ u, p u) ↔ p () :=
  ⟨fun ⟨_, h⟩ => h, fun h => ⟨(), h⟩⟩

theorem pure_eq_ok_iff {α : Type} {a b : α} : (pure a : Checked α) = .ok b ↔ a = b :=
  Except.ok.injEq a b ▸ Iff.rfl

theorem require_eq_ok_iff {condition : Bool} {node field : String} {problem : Problem} :
    require condition node field problem = .ok () ↔ condition = true := by
  cases condition <;> simp [require, reject]

theorem given_eq_ok_iff {α : Type} {node field : String} {o : Option α} {value : α} :
    given node field o = .ok value ↔ o = some value := by
  cases o <;> simp [given, reject]

/-- A list is accepted exactly when every element is there. -/
theorem withoutGaps_eq_ok_iff {α : Type} {node field : String} {items : List (Option α)}
    {present : List α} :
    withoutGaps node field items = .ok present ↔ items = present.map some := by
  unfold withoutGaps
  constructor
  · intro h
    split at h
    · next hz =>
      cases h
      rw [gapCount, List.countP_eq_zero] at hz
      induction items with
      | nil => rfl
      | cons o items ih =>
        cases o with
        | none => exact absurd rfl (hz none (by simp))
        | some a =>
          have := ih (fun o ho => hz o (List.mem_cons_of_mem _ ho))
          simpa using this
    · simp [reject] at h
  · rintro rfl
    have : gapCount (present.map some) = 0 := by
      simp [gapCount, List.countP_eq_zero]
    simp [this]

/-- A list consists of images exactly if it is the image of a list. -/
theorem exists_eq_map_iff {α β : Type} {f : β → α} {as : List α} :
    (∃ bs : List β, as = bs.map f) ↔ ∀ a ∈ as, ∃ b, f b = a := by
  constructor
  · rintro ⟨bs, rfl⟩ a ha
    obtain ⟨b, -, hb⟩ := List.mem_map.1 ha
    exact ⟨b, hb⟩
  · intro h
    induction as with
    | nil => exact ⟨[], rfl⟩
    | cons a as ih =>
      obtain ⟨⟨b, rfl⟩, has⟩ := List.forall_mem_cons.1 h
      obtain ⟨bs, rfl⟩ := ih has
      exact ⟨b :: bs, rfl⟩

/-- A list without gaps is the list of its elements. -/
theorem exists_eq_map_some_iff {α : Type} {items : List (Option α)} :
    (∃ present : List α, items = present.map some) ↔ none ∉ items := by
  rw [exists_eq_map_iff]
  constructor
  · intro h hnone
    obtain ⟨value, hvalue⟩ := h none hnone
    cases hvalue
  · intro h item hitem
    cases item with
    | none => exact absurd hitem h
    | some value => exact ⟨value, rfl⟩

/-- A list of constructions succeeds exactly when each does, if what a construction makes tells
what it was made from. -/
theorem mapM_eq_ok_iff {α β : Type} {f : α → Checked β} {origin : β → α} {p : β → Prop}
    (h : ∀ a b, f a = .ok b ↔ a = origin b ∧ p b) {as : List α} {bs : List β} :
    as.mapM f = .ok bs ↔ as = bs.map origin ∧ ∀ b ∈ bs, p b := by
  induction as generalizing bs with
  | nil =>
    rw [List.mapM_nil, pure_eq_ok_iff]
    cases bs <;> simp
  | cons a as ih =>
    simp only [List.mapM_cons, bind_eq_ok_iff, h, ih, pure_eq_ok_iff]
    constructor
    · rintro ⟨b, ⟨rfl, hb⟩, bs, ⟨rfl, hbs⟩, rfl⟩
      exact ⟨rfl, by simpa using ⟨hb, hbs⟩⟩
    · cases bs with
      | nil => simp
      | cons b bs =>
        rintro ⟨heq, hall⟩
        obtain ⟨rfl, rfl⟩ := List.cons.inj heq
        obtain ⟨hb, hbs⟩ := List.forall_mem_cons.1 hall
        exact ⟨b, ⟨rfl, hb⟩, bs, ⟨rfl, hbs⟩, rfl⟩

/-- A list of constructions succeeds if each of them does. -/
theorem exists_mapM_eq_ok_iff {α β : Type} {f : α → Checked β} {as : List α} :
    (∃ bs, as.mapM f = .ok bs) ↔ ∀ a ∈ as, ∃ b, f a = .ok b := by
  induction as with
  | nil => simpa using ⟨[], rfl⟩
  | cons a as ih =>
    rw [List.forall_mem_cons, ← ih]
    simp only [List.mapM_cons, bind_eq_ok_iff, pure_eq_ok_iff]
    constructor
    · rintro ⟨-, b, hb, bs, hbs, rfl⟩
      exact ⟨⟨b, hb⟩, bs, hbs⟩
    · rintro ⟨⟨b, hb⟩, bs, hbs⟩
      exact ⟨b :: bs, b, hb, bs, hbs, rfl⟩

/-- A list of constructions fails as the first of them that fails. -/
theorem mapM_eq_error_iff {α β : Type} {f : α → Checked β} {as : List α} {r : Rejection} :
    as.mapM f = .error r ↔
      ∃ before a after, as = before ++ a :: after ∧ (∀ x ∈ before, ∃ b, f x = .ok b) ∧
        f a = .error r := by
  induction as with
  | nil => simp [pure, Except.pure]
  | cons a as ih =>
    rw [List.mapM_cons]
    cases ha : f a with
    | error s =>
      constructor
      · intro h
        cases h
        exact ⟨[], a, as, rfl, by simp, ha⟩
      · rintro ⟨_ | ⟨x, before⟩, b, after, heq, hbefore, hb⟩
        · cases heq
          cases ha.symm.trans hb
          rfl
        · cases heq
          obtain ⟨y, hy⟩ := hbefore a List.mem_cons_self
          cases ha.symm.trans hy
    | ok b =>
      have hrest : (as.mapM f >>= fun bs => pure (b :: bs)) = .error r ↔ as.mapM f = .error r := by
        cases as.mapM f <;> simp [bind, Except.bind, pure, Except.pure]
      refine hrest.trans (ih.trans ⟨?_, ?_⟩)
      · rintro ⟨before, x, after, rfl, hbefore, hx⟩
        exact ⟨a :: before, x, after, rfl, List.forall_mem_cons.2 ⟨⟨b, ha⟩, hbefore⟩, hx⟩
      · rintro ⟨_ | ⟨x, before⟩, y, after, heq, hbefore, hy⟩
        · cases heq
          cases ha.symm.trans hy
        · cases heq
          exact ⟨before, y, after, rfl, fun z hz => hbefore z (List.mem_cons_of_mem _ hz), hy⟩

end JavaSyntax
