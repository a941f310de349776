import JavaSyntax.Text.Quoted
import JavaSyntax.Tree.Basic

/-!
# Outlines of expressions

An outline is an expression without its types. Outlines are taken of the expressions whose text
names no class: uses of variables, `null`, `this`, strings, conditional expressions, assignments,
comparisons, and calls without explicit type arguments. A reader makes an outline of text again. It
is made for text that is an expression; of other text it refuses some and misreads some.

The reader is given fuel, since brackets and arguments nest. `Reader.Yields` hides the fuel: what a
reader yields it yields with any fuel from some amount on, and so it yields one thing only.
-/

set_option autoImplicit false

namespace JavaSyntax

/-- An expression without its types. -/
inductive Outline where
  | null
  | this
  | string (text : String)
  /-- The use of a variable. -/
  | use (receiver : Option Outline) (name : String)
  | ternary (condition whenTrue whenFalse : Outline)
  | assignment (target source : Outline)
  | comparison (operator : Comparison) (left right : Outline)
  | call (receiver : Option Outline) (name : String) (arguments : List Outline)

/-! ## Taking an outline -/

/-- The outline of a value that is written without a class or a literal. -/
def Value.outline? : Value → Option Outline
  | null => some .null
  | this _ => some .this
  | string text => some (.string text)
  | literal _ | super _ | constant _ _ => none

mutual
/-- The outline of an expression whose text names no class. -/
def Expr.outline? : Expr → Option Outline
  | .value v => v.outline?
  | .var v => v.outline?
  | .ternary c t f => do return .ternary (← c.outline?) (← t.outline?) (← f.outline?)
  | .assignment target source => do return .assignment (← target.outline?) (← source.outline?)
  | .comparison operator l r => do return .comparison operator (← l.outline?) (← r.outline?)
  | .call name receiver [] as _ => do
    return .call (← receiver.outline?) name.text (← exprOutlines? as)
  | .call _ _ (_ :: _) _ _ | .create .. | .cast .. | .instanceOf .. | .anonymousClass .. |
    .delegation .. => none

/-- The outlines of expressions. -/
def exprOutlines? : List Expr → Option (List Outline)
  | [] => some []
  | e :: es => do return (← e.outline?) :: (← exprOutlines? es)

/-- The outline of what stands before a dot, if anything does; a class has none. -/
def Receiver.outline? : Receiver → Option (Option Outline)
  | .implicit => some none
  | .object e => do return some (← e.outline?)
  | .owner _ => none

/-- The outline of the use of a variable. -/
def VariableExpr.outline? : VariableExpr → Option Outline
  | .declaration _ => none
  | .use v receiver => do return .use (← receiver.outline?) v.name
end

/-! ### Expressions that have an outline -/

section HasOutline

variable {o : Outline} {os : List Outline}

theorem Expr.outline?_ternary {c t f : Expr} :
    (ternary c t f).outline? = some o ↔
      ∃ condition, c.outline? = some condition ∧ ∃ whenTrue, t.outline? = some whenTrue ∧
        ∃ whenFalse, f.outline? = some whenFalse ∧ .ternary condition whenTrue whenFalse = o := by
  simp [outline?, Option.bind_eq_some_iff]

theorem Expr.outline?_assignment {target : VariableExpr} {source : Expr} :
    (assignment target source).outline? = some o ↔
      ∃ place, target.outline? = some place ∧ ∃ value, source.outline? = some value ∧
        .assignment place value = o := by
  simp [outline?, Option.bind_eq_some_iff]

theorem Expr.outline?_comparison {operator : Comparison} {l r : Expr} :
    (comparison operator l r).outline? = some o ↔
      ∃ left, l.outline? = some left ∧ ∃ right, r.outline? = some right ∧
        .comparison operator left right = o := by
  simp [outline?, Option.bind_eq_some_iff]

theorem Expr.outline?_call {name : Identifier} {receiver : Receiver} {as : List Expr}
    {returnType : JavaType} :
    (call name receiver [] as returnType).outline? = some o ↔
      ∃ object, receiver.outline? = some object ∧ ∃ arguments, exprOutlines? as = some arguments ∧
        .call object name.text arguments = o := by
  simp [outline?, Option.bind_eq_some_iff]

theorem exprOutlines?_cons {e : Expr} {es : List Expr} :
    exprOutlines? (e :: es) = some os ↔
      ∃ first, e.outline? = some first ∧ ∃ others, exprOutlines? es = some others ∧
        first :: others = os := by
  simp [exprOutlines?, Option.bind_eq_some_iff]

theorem Receiver.outline?_object {e : Expr} {object : Option Outline} :
    (Receiver.object e).outline? = some object ↔ ∃ o, e.outline? = some o ∧ some o = object := by
  simp [outline?, Option.bind_eq_some_iff]

theorem VariableExpr.outline?_use {v : Variable} {receiver : Receiver} :
    (use v receiver).outline? = some o ↔
      ∃ object, receiver.outline? = some object ∧ .use object v.name = o := by
  simp [outline?, Option.bind_eq_some_iff]

end HasOutline

/-! ## Reading an outline -/

/-- What a word stands for, behind a receiver or alone. -/
def Outline.ofWord (receiver : Option Outline) (word : String) : Outline :=
  if receiver.isNone && word == "null" then null
  else if receiver.isNone && word == "this" then this
  else use receiver word

/-- What can stand between the operands of an expression. -/
inductive Infix where
  | assignment
  | choice
  | comparison (operator : Comparison)

namespace Reader

/-- The operator that a text begins with, and what follows it. -/
def infix? : List Char → Option (Infix × List Char)
  | ' ' :: '=' :: ' ' :: cs => some (.assignment, cs)
  | ' ' :: '?' :: ' ' :: cs => some (.choice, cs)
  | ' ' :: '=' :: '=' :: ' ' :: cs => some (.comparison .equal, cs)
  | ' ' :: '!' :: '=' :: ' ' :: cs => some (.comparison .unequal, cs)
  | _ => none

mutual
/-- Reads an expression. -/
def expr : Nat → List Char → Option (Outline × List Char)
  | 0, _ => none
  | n + 1, cs => do
    let (left, rest) ← operand n cs
    operation n left rest

/-- Reads the operator and the operands behind a first operand, if there are any. -/
def operation : Nat → Outline → List Char → Option (Outline × List Char)
  | 0, _, _ => none
  | n + 1, left, cs =>
    match infix? cs with
    | none => some (left, cs)
    | some (.assignment, cs) => do
      let (source, rest) ← expr n cs
      return (.assignment left source, rest)
    | some (.comparison operator, cs) => do
      let (right, rest) ← operand n cs
      return (.comparison operator left right, rest)
    | some (.choice, cs) => do
      match ← operand n cs with
      | (whenTrue, ' ' :: ':' :: ' ' :: rest) =>
        let (whenFalse, rest) ← operand n rest
        return (.ternary left whenTrue whenFalse, rest)
      | _ => none

/-- Reads an operand: an expression in brackets, a string or a word, and what is selected
from it. -/
def operand : Nat → List Char → Option (Outline × List Char)
  | 0, _ => none
  | n + 1, cs =>
    match cs with
    | '(' :: cs => do
      match ← expr n cs with
      | (inner, ')' :: rest) => selection n inner rest
      | _ => none
    | '"' :: cs => do
      let (text, rest) ← Text.Quoted.decode cs
      selection n (.string (String.ofList text)) rest
    | cs => member n none cs

/-- Reads a word, which is the name of a method if arguments follow, and what is selected
from it. -/
def member : Nat → Option Outline → List Char → Option (Outline × List Char)
  | 0, _, _ => none
  | n + 1, receiver, cs =>
    let word := String.ofList (cs.takeWhile Identifier.isPart)
    if word.isEmpty then none
    else
      match cs.dropWhile Identifier.isPart with
      | '(' :: cs => do
        let (as, rest) ← arguments n cs
        selection n (.call receiver word as) rest
      | rest => selection n (.ofWord receiver word) rest

/-- Reads what is selected from an object, member by member. -/
def selection : Nat → Outline → List Char → Option (Outline × List Char)
  | 0, _, _ => none
  | n + 1, object, cs =>
    match cs with
    | '.' :: cs => member n (some object) cs
    | _ => some (object, cs)

/-- Reads arguments and the bracket that closes them. -/
def arguments : Nat → List Char → Option (List Outline × List Char)
  | 0, _ => none
  | n + 1, cs =>
    match cs with
    | ')' :: rest => some ([], rest)
    | cs => do
      let (a, rest) ← expr n cs
      let (as, rest) ← further n rest
      return (a :: as, rest)

/-- Reads the arguments after the first, each behind a comma, and the bracket that closes them. -/
def further : Nat → List Char → Option (List Outline × List Char)
  | 0, _ => none
  | n + 1, cs =>
    match cs with
    | ')' :: rest => some ([], rest)
    | ',' :: ' ' :: cs => do
      let (a, rest) ← expr n cs
      let (as, rest) ← further n rest
      return (a :: as, rest)
    | _ => none
end

/-- Whether a reader yields a result with any fuel from some amount on. -/
def Yields {α : Type} (f : Nat → Option α) (a : α) : Prop := ∃ k, ∀ n, k ≤ n → f n = some a

end Reader

end JavaSyntax
