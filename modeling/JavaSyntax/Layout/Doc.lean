import JavaSyntax.Reference.Basic

/-!
# Documents

Source text before two decisions are made: how wide a level of indentation is, and by which name
a class is called. A document is a sequence of pieces; nesting a document moves its margins one
level in and touches nothing else, so that documents can be laid out at any level and width.
-/

set_option autoImplicit false

namespace JavaSyntax

/-- A piece of a document. -/
inductive Piece where
  /-- The indentation of a line, in levels below the level of the document. -/
  | margin (depth : Nat)
  /-- Text that is written as it is. -/
  | text (s : String)
  /-- The end of a line. -/
  | newline
  /-- The name of a class. -/
  | name (r : Reference)

/-- Source text before indentation and names are settled. -/
abbrev Doc := List Piece

namespace Piece

/-- A piece, one level further in. -/
def nest : Piece → Piece
  | margin depth => margin (depth + 1)
  | p => p

/-- The class that a piece names. -/
def reference? : Piece → Option Reference
  | name r => some r
  | _ => none

/-- The text of a piece, given the width of a level, the level of the document, and the names of
classes. -/
def write (width level : Nat) (nameOf : Reference → String) : Piece → String
  | margin depth => String.ofList (List.replicate ((level + depth) * width) ' ')
  | text s => s
  | newline => "\n"
  | name r => nameOf r

end Piece

namespace Doc

/-- A document with every margin one level further in. -/
def nest (d : Doc) : Doc := d.map Piece.nest

/-- The classes that a document names, in order, with repetitions. -/
def references (d : Doc) : List Reference := d.filterMap Piece.reference?

/-- The text of a document. -/
def write (width level : Nat) (nameOf : Reference → String) (d : Doc) : String :=
  String.join (d.map (Piece.write width level nameOf))

/-- A text as a document. -/
def ofText (s : String) : Doc := [.text s]

/-- A line of its own. -/
def line (d : Doc) : Doc := .margin 0 :: d ++ [.newline]

/-- A document between round brackets. -/
def parens (d : Doc) : Doc := .text "(" :: d ++ [.text ")"]

/-- Documents with a comma and a space between them. -/
def commaSeparated (ds : List Doc) : Doc := (ofText ", ").intercalate ds

/-- Groups of lines with a blank line between them. -/
def blankSeparated (ds : List Doc) : Doc := List.intercalate [.newline] ds

/-- Words, each followed by a space. -/
def words (ws : List String) : Doc := ws.map fun w => .text (w ++ " ")

/-- Lines that begin with a heading and an opening brace, go on with a nested document, and end
with a closing brace. -/
def braced (heading inner : Doc) : Doc :=
  line (heading ++ ofText "\x7b") ++ nest inner ++ line (ofText "\x7d")

/-! ## Documents in a row -/

section Rows

variable {P : Doc → Prop}

/-- What is kept by putting one document behind another is kept by putting any number of them in a
row. -/
theorem flatMap_of (hnil : P []) (happend : ∀ {c d : Doc}, P c → P d → P (c ++ d)) {α : Type}
    {xs : List α} {f : α → Doc} (h : ∀ x ∈ xs, P (f x)) : P (xs.flatMap f) := by
  induction xs with
  | nil => exact hnil
  | cons x xs ih =>
    obtain ⟨hx, hxs⟩ := List.forall_mem_cons.1 h
    rw [List.flatMap_cons]
    exact happend hx (ih hxs)

/-- The same with another document between any two of them. -/
theorem intercalate_of (hnil : P []) (happend : ∀ {c d : Doc}, P c → P d → P (c ++ d)) {c : Doc}
    (hc : P c) {ds : List Doc} (h : ∀ d ∈ ds, P d) : P (c.intercalate ds) := by
  induction ds with
  | nil => exact hnil
  | cons d ds ih =>
    obtain ⟨hd, hds⟩ := List.forall_mem_cons.1 h
    cases ds with
    | nil => simpa using hd
    | cons e es =>
      rw [List.intercalate_cons_cons]
      exact happend (happend hd hc) (ih hds)

end Rows

/-! ## Laws of nesting and writing -/

theorem references_append (c d : Doc) : references (c ++ d) = references c ++ references d := by
  simp [references]

theorem write_append (width level : Nat) (nameOf : Reference → String) (c d : Doc) :
    write width level nameOf (c ++ d) = write width level nameOf c ++ write width level nameOf d := by
  simp [write, String.join_append]

theorem write_cons (width level : Nat) (nameOf : Reference → String) (p : Piece) (d : Doc) :
    write width level nameOf (p :: d) = p.write width level nameOf ++ write width level nameOf d := by
  rw [← List.singleton_append, write_append]
  simp [write]

/-- Nesting changes no name. -/
theorem references_nest (d : Doc) : references (nest d) = references d := by
  simp only [references, nest, List.filterMap_map]
  congr 1
  funext p
  cases p <;> rfl

/-- Laying out a nested document is laying out the document one level further in. -/
theorem write_nest (width level : Nat) (nameOf : Reference → String) (d : Doc) :
    write width level nameOf (nest d) = write width (level + 1) nameOf d := by
  simp only [write, nest, List.map_map]
  congr 2
  funext p
  cases p <;> simp [Piece.nest, Piece.write, Nat.add_assoc, Nat.add_comm 1]

end Doc

end JavaSyntax
