import JavaSyntax.Writer

/-!
# Actions of a writer

Writing as it is carried out: one action after the other. The level of the writer is a machine word
that is raised before the inside of a block is written and lowered behind it. A sum or product can
be too large for a word, and whether the run then stops or goes on with what is left of the result
depends on how it is carried out.
-/

set_option autoImplicit false

namespace JavaSyntax

/-! ## Words -/

/-- What is done about a result that does not fit in a word. -/
inductive Arithmetic where
  /-- The run stops. -/
  | checked
  /-- The run goes on with the remainder that does fit. -/
  | wrapping
  deriving DecidableEq, Repr

/-- Where a run stopped. -/
inductive Overflow where
  /-- The highest level was raised. -/
  | raise
  /-- The lowest level was lowered. -/
  | lower
  /-- A margin was wider than a word can tell. -/
  | margin
  deriving DecidableEq, Repr

/-- Whether a word of this many bits can tell a number. -/
def fitsWord (bits number : Nat) : Bool := (BitVec.ofNat bits number).toNat == number

/-- A writer whose numbers are machine words of this many bits. -/
structure WordWriter (bits : Nat) where
  indentWidth : BitVec bits
  emitPackage : Bool
  imports : ImportTable
  buffer : String
  indentLevel : BitVec bits

/-- Something that a writer is made to do. -/
structure Emission (bits : Nat) where
  run : Arithmetic → WordWriter bits → Except Overflow (WordWriter bits)

variable {bits : Nat}

/-- Stops a run that is looked after if a result does not fit in a word. -/
def Arithmetic.check (a : Arithmetic) (fits : Bool) (reason : Overflow) : Except Overflow Unit :=
  if a = .checked ∧ fits = false then .error reason else .ok ()

/-! ## Pieces -/

namespace WordWriter

/-- Adds a piece at the level of the writer. -/
def putPiece (w : WordWriter bits) : Piece → WordWriter bits
  | .margin depth =>
    let width := (w.indentLevel + BitVec.ofNat bits depth) * w.indentWidth
    { w with buffer := w.buffer ++ String.ofList (List.replicate width.toNat ' ') }
  | .text s => { w with buffer := w.buffer ++ s }
  | .newline => { w with buffer := w.buffer ++ "\n" }
  | .name r =>
    let (name, imports) := w.imports.register r
    { w with imports := imports, buffer := w.buffer ++ name }

/-- Adds a document piece by piece. -/
def put (w : WordWriter bits) (d : Doc) : WordWriter bits := d.foldl putPiece w

/-- Whether a word can tell how wide a margin is. -/
def fitsPiece (w : WordWriter bits) : Piece → Bool
  | .margin depth => fitsWord bits ((w.indentLevel.toNat + depth) * w.indentWidth.toNat)
  | _ => true

/-- The writer one level further in. -/
def raised (w : WordWriter bits) : WordWriter bits := { w with indentLevel := w.indentLevel + 1 }

/-- The writer one level further out. -/
def lowered (w : WordWriter bits) : WordWriter bits := { w with indentLevel := w.indentLevel - 1 }

end WordWriter

/-! ## Actions -/

namespace Emission

/-- Writes a piece. -/
def piece (p : Piece) : Emission bits where
  run a w := do
    a.check (w.fitsPiece p) .margin
    return w.putPiece p

/-- Does nothing. -/
def skip : Emission bits where
  run _ w := .ok w

/-- One action after the other. -/
instance : Append (Emission bits) where
  append m n := { run := fun a w => m.run a w >>= n.run a }

/-- Writes a document in which nothing is nested. -/
def put : Doc → Emission bits
  | [] => skip
  | p :: d => piece p ++ put d

/-! ## Levels -/

/-- Goes one level further in. -/
def raise : Emission bits where
  run a w := do
    a.check (fitsWord bits (w.indentLevel.toNat + 1)) .raise
    return w.raised

/-- Goes one level further out. -/
def lower : Emission bits where
  run a w := do
    a.check (0 < w.indentLevel.toNat) .lower
    return w.lowered

/-- Writes one level further in. -/
def nested (m : Emission bits) : Emission bits := raise ++ m ++ lower

/-! ## Compositions -/

/-- Writes a text. -/
def text (s : String) : Emission bits := put (Doc.ofText s)

/-- Writes a line. -/
def line (m : Emission bits) : Emission bits := put [.margin 0] ++ m ++ put [.newline]

/-- Writes between round brackets. -/
def parens (m : Emission bits) : Emission bits := text "(" ++ m ++ text ")"

/-- Does one thing between any two others. -/
def separated (between : Emission bits) : List (Emission bits) → Emission bits
  | [] => skip
  | [m] => m
  | m :: n :: ms => m ++ between ++ separated between (n :: ms)

/-- Writes lines that begin with a heading and an opening brace, go on one level further in, and end
with a closing brace. -/
def braced (heading inner : Emission bits) : Emission bits :=
  line (heading ++ text "\x7b") ++ nested inner ++ line (text "\x7d")

end Emission

end JavaSyntax
