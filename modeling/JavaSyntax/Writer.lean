import JavaSyntax.ImportTable
import JavaSyntax.Layout.ClassDefinition

/-!
# Writers

A writer lays documents out one after the other and collects the imports that they need. Every
class or sequence of statements that is written as a whole starts from an empty page and an
empty table, so that writing the same tree twice gives the same text.
-/

set_option autoImplicit false

namespace JavaSyntax

/-- What can be chosen about the form of a file. -/
structure WriterOptions where
  /-- The number of spaces of one level of indentation. -/
  indentWidth : Nat := 2
  /-- Whether a class is written with the line that names its package. -/
  emitPackage : Bool := true
  deriving DecidableEq, Repr

/-- Source text with the imports that it needs. -/
structure Emitted where
  package : Option String
  imports : List String
  source : String
  deriving DecidableEq, Repr

/-- The text of a whole file: package line, imports and source. -/
def Emitted.fileContents (e : Emitted) : String :=
  e.package.elim "" (fun p => "package " ++ p ++ ";\n\n") ++
    (if e.imports.isEmpty then "" else String.join (e.imports.map (· ++ "\n")) ++ "\n") ++
    e.source

/-- A page that is being written. -/
structure Writer where
  options : WriterOptions
  imports : ImportTable
  buffer : String
  indentLevel : Nat

namespace Writer

/-- A writer with an empty page. -/
def ofOptions (options : WriterOptions) : Writer :=
  { options := options, imports := ImportTable.empty "", buffer := "", indentLevel := 0 }

/-- Enters the classes that a document names, and adds its text at the level of the page. -/
def put (w : Writer) (d : Doc) : Writer :=
  let imports := w.imports.enterAll (Doc.references d)
  { w with
    imports := imports
    buffer := w.buffer ++ Doc.write w.options.indentWidth w.indentLevel imports.nameOf d }

/-- Adds an expression, without indentation or terminator. -/
def putExpr (w : Writer) (e : Expr) : Writer := w.put e.doc

/-- Adds the declaration or use of a variable. -/
def putVariable (w : Writer) (v : VariableExpr) : Writer := w.put v.doc

/-- Adds expressions in brackets. -/
def putArguments (w : Writer) (es : List Expr) : Writer := w.put (argumentsDoc es)

/-- Adds a statement. -/
def putStatement (w : Writer) (s : Statement) : Writer := w.put s.doc

/-- Adds statements. -/
def putBody (w : Writer) (body : List Statement) : Writer := w.put (statementsDoc body)

/-- Adds a comment. -/
def putComment (w : Writer) (c : Comment) : Writer := w.put c.doc

/-- Enters a reference and tells how it is written. -/
def register (w : Writer) (r : Reference) : String × Writer :=
  let (name, imports) := w.imports.register r
  (name, { w with imports := imports })

/-- Claims the simple name of a class that the page declares. -/
def reserve (w : Writer) (package name : String) : Writer :=
  { w with imports := w.imports.reserve package name }

/-! ## Whole pages -/

mutual
/-- Claims the simple names of a class and of all classes nested in it, so that other classes of
these names are written in full. -/
def reserveNames (t : ImportTable) (package : String) : ClassDefinition → ImportTable
  | ⟨h, _, _, nested⟩ =>
    reserveAllNames (t.reserve package h.identifier.text) (qualify package h.identifier.text) nested

/-- Claims the simple names of classes in order, all of them in one package or class. -/
def reserveAllNames (t : ImportTable) (package : String) : List ClassDefinition → ImportTable
  | [] => t
  | c :: cs => reserveAllNames (reserveNames t package c) package cs
end

/-- The same writer with an empty page and a given table. -/
def reset (w : Writer) (imports : ImportTable) : Writer :=
  { w with imports := imports, buffer := "", indentLevel := 0 }

/-- Takes the text off the page; its imports are still known. -/
def take (w : Writer) (package : Option String) : Emitted × Writer :=
  ({ package := package, imports := w.imports.imports, source := w.buffer }, { w with buffer := "" })

/-- The package line that goes with a class. -/
def packageOf (options : WriterOptions) (c : ClassDefinition) : Option String :=
  if options.emitPackage && c.packageName != "" then some c.packageName else none

/-- Writes a class on a new page. -/
def writeClass (w : Writer) (c : ClassDefinition) : Emitted × Writer :=
  let table := reserveNames (ImportTable.empty c.packageName) c.packageName c
  ((w.reset table).put c.doc).take (packageOf w.options c)

/-- Writes statements on a new page, in no package. -/
def writeStatements (w : Writer) (body : List Statement) : Emitted × Writer :=
  ((w.reset (ImportTable.empty "")).putBody body).take none

/-- What is taken off a new page is the text of what has been put on it. -/
theorem source_put_reset (w : Writer) (t : ImportTable) (d : Doc) (package : Option String) :
    (((w.reset t).put d).take package).1.source
      = Doc.write w.options.indentWidth 0 (t.enterAll (Doc.references d)).nameOf d :=
  String.empty_append

end Writer

end JavaSyntax
