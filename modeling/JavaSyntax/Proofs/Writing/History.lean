import JavaSyntax.Proofs.Writing.Emission

/-!
# Writing does not depend on history

A writer serves for any number of pages, and between two of them its page may hold text, its table
claims and lines, and its level may be any. A new page takes nothing over but the options, and no
call changes these; so what is written on a new page, and what the writer is left with, is the same
as if nothing had been written before.
-/

set_option autoImplicit false

namespace JavaSyntax

/-- A call that a caller makes of a writer. -/
inductive WriterCall where
  | writeClass (c : ClassDefinition)
  | writeStatements (body : List Statement)
  | putExpr (e : Expr)
  | putVariable (v : VariableExpr)
  | putArguments (es : List Expr)
  | putStatement (s : Statement)
  | putBody (body : List Statement)
  | putComment (c : Comment)
  | register (r : Reference)
  | reserve (package name : String)
  /-- Sets the level at which the page goes on. -/
  | indent (level : Nat)

namespace Writer

/-- The writer after one call. -/
def step (w : Writer) : WriterCall → Writer
  | .writeClass c => (w.writeClass c).2
  | .writeStatements body => (w.writeStatements body).2
  | .putExpr e => w.putExpr e
  | .putVariable v => w.putVariable v
  | .putArguments es => w.putArguments es
  | .putStatement s => w.putStatement s
  | .putBody body => w.putBody body
  | .putComment c => w.putComment c
  | .register r => (w.register r).2
  | .reserve package name => w.reserve package name
  | .indent level => { w with indentLevel := level }

/-- The writer after calls in order. -/
def run (w : Writer) (calls : List WriterCall) : Writer := calls.foldl step w

/-! ## Options outlive every call -/

theorem options_writeClass (w : Writer) (c : ClassDefinition) :
    (w.writeClass c).2.options = w.options := by
  let table := reserveNames (ImportTable.empty c.packageName) c.packageName c
  have hpage := (w.reset table).extends_put c.doc
  exact hpage.options

theorem options_writeStatements (w : Writer) (body : List Statement) :
    (w.writeStatements body).2.options = w.options := by
  have hpage := (w.reset (ImportTable.empty "")).extends_put (statementsDoc body)
  exact hpage.options

/-- No call changes the options. -/
theorem options_step (w : Writer) (call : WriterCall) : (w.step call).options = w.options := by
  cases call with
  | writeClass c => exact w.options_writeClass c
  | writeStatements body => exact w.options_writeStatements body
  | putExpr e => exact (w.extends_put e.doc).options
  | putVariable v => exact (w.extends_put v.doc).options
  | putArguments es => exact (w.extends_put (argumentsDoc es)).options
  | putStatement s => exact (w.extends_put s.doc).options
  | putBody body => exact (w.extends_put (statementsDoc body)).options
  | putComment c => exact (w.extends_put c.doc).options
  | register r => rfl
  | reserve package name => rfl
  | indent level => rfl

theorem options_run (w : Writer) (calls : List WriterCall) : (w.run calls).options = w.options := by
  induction calls generalizing w with
  | nil => rfl
  | cons call calls ih => exact (ih (w.step call)).trans (w.options_step call)

/-! ## A new page takes over nothing else -/

variable {w w' : Writer}

theorem reset_eq_of_options (h : w.options = w'.options) (t : ImportTable) :
    w.reset t = w'.reset t := by
  rw [reset, reset, h]

theorem writeClass_eq_of_options (h : w.options = w'.options) (c : ClassDefinition) :
    w.writeClass c = w'.writeClass c := by
  rw [writeClass, writeClass, reset_eq_of_options h, h]

theorem writeStatements_eq_of_options (h : w.options = w'.options) (body : List Statement) :
    w.writeStatements body = w'.writeStatements body := by
  rw [writeStatements, writeStatements, reset_eq_of_options h]

/-- Whatever has been written, registered or reserved before, a class and statements are written as
by a new writer with the same options, and leave the writer in the same state. -/
theorem write_after_run (options : WriterOptions) (history : List WriterCall) :
    (∀ c : ClassDefinition,
      ((ofOptions options).run history).writeClass c = (ofOptions options).writeClass c) ∧
    ∀ body : List Statement,
      ((ofOptions options).run history).writeStatements body
        = (ofOptions options).writeStatements body := by
  have hoptions := (ofOptions options).options_run history
  exact ⟨writeClass_eq_of_options hoptions, writeStatements_eq_of_options hoptions⟩

end Writer

end JavaSyntax
