import JavaSyntax.Proofs.Indentation.Margins
import JavaSyntax.Writer

/-!
# The depth of a block

Statements between braces are the statements, written one level further in. If their comments and
literals stay in their lines, this moves every line by the width of a level and leaves empty lines
empty: each margin becomes wider by that much, every line that is not empty has one, and no line
begins anywhere else.
-/

set_option autoImplicit false

namespace JavaSyntax

/-! ## Indented text -/

namespace Text

/-- A line behind spaces, unless it is empty. -/
def shifted (width : Nat) (line : String) : String :=
  if line.isEmpty then line else String.ofList (List.replicate width ' ') ++ line

/-- A text with spaces before each of its lines that is not empty. -/
def indented (width : Nat) (text : String) : String :=
  "\n".intercalate ((segments '\n' text).map (shifted width))

/-- The characters of a text with spaces before each of its lines that is not empty. The text may
begin where a line does, or further on. -/
def indent (width : Nat) : Bool → List Char → List Char
  | _, [] => []
  | atStart, c :: cs =>
    if c = '\n' then c :: indent width true cs
    else if atStart then List.replicate width ' ' ++ c :: indent width false cs
    else c :: indent width false cs

variable {width : Nat}

theorem indent_newline (atStart : Bool) (cs : List Char) :
    indent width atStart ('\n' :: cs) = '\n' :: indent width true cs := by
  simp [indent]

/-- Nothing is put into a line. -/
theorem indent_append {cs : List Char} (h : '\n' ∉ cs) (ds : List Char) :
    indent width false (cs ++ ds) = cs ++ indent width false ds := by
  induction cs with
  | nil => rfl
  | cons c cs ih =>
    rw [List.mem_cons, not_or] at h
    simp [indent, Ne.symm h.1, ih h.2]

/-- A margin with something behind it becomes wider. -/
theorem indent_replicate {c : Char} (h : c ≠ '\n') (n : Nat) (cs : List Char) :
    indent width true (List.replicate n ' ' ++ c :: cs)
      = List.replicate (width + n) ' ' ++ indent width false (c :: cs) := by
  cases n with
  | zero => simp [indent, h]
  | succ n =>
    have hspaces : '\n' ∉ List.replicate n ' ' := by simp [List.mem_replicate]
    calc indent width true (List.replicate (n + 1) ' ' ++ c :: cs)
        = List.replicate width ' ' ++ ' ' :: indent width false (List.replicate n ' ' ++ c :: cs) := by
          simp [List.replicate_succ, indent]
      _ = List.replicate width ' ' ++
            (List.replicate (n + 1) ' ' ++ indent width false (c :: cs)) := by
          rw [indent_append hspaces, List.replicate_succ, List.cons_append]
      _ = List.replicate (width + (n + 1)) ' ' ++ indent width false (c :: cs) := by
          rw [← List.append_assoc, List.replicate_append_replicate]

/-- A line behind spaces, by its characters. -/
def shift (width : Nat) (line : List Char) : List Char :=
  if line = [] then [] else List.replicate width ' ' ++ line

theorem toList_shifted (width : Nat) (line : List Char) :
    (shifted width (String.ofList line)).toList = shift width line := by
  cases line <;> simp [shifted, shift]

/-- The lines of the indented text are the lines behind spaces; the first one may be a part of a
line, before which nothing is put. -/
theorem cut_indent (atStart : Bool) {cs first : List Char} {others : List (List Char)}
    (h : cut '\n' cs = first :: others) :
    cut '\n' (indent width atStart cs)
      = (if atStart then shift width first else first) :: others.map (shift width) := by
  induction cs generalizing atStart first others with
  | nil =>
    cases h
    simp [indent, cut, shift]
  | cons c cs ih =>
    obtain ⟨second, rest, hcut⟩ := List.exists_cons_of_ne_nil (cut_ne_nil '\n' cs)
    by_cases hc : c = '\n'
    · subst hc
      simp only [cut, if_true, hcut] at h
      cases h
      rw [indent_newline]
      simp [cut, ih true hcut, shift]
    · simp only [cut, if_neg hc, hcut] at h
      cases h
      have hrest : cut '\n' (c :: indent width false cs)
          = (c :: second) :: others.map (shift width) := by
        simp [cut, hc, ih false hcut]
      cases atStart with
      | false => simpa [indent, hc] using hrest
      | true =>
        have hspaces : '\n' ∉ List.replicate width ' ' := by simp [List.mem_replicate]
        simp [indent, hc, shift, cut_append_of_not_mem hspaces hrest]

/-- Indenting line by line is indenting character by character. -/
theorem toList_indented (width : Nat) (text : String) :
    (indented width text).toList = indent width true text.toList := by
  obtain ⟨first, others, hcut⟩ := List.exists_cons_of_ne_nil (cut_ne_nil '\n' text.toList)
  have hlines : cut '\n' (indent width true text.toList)
      = (cut '\n' text.toList).map (shift width) := by
    rw [cut_indent true hcut, hcut]
    rfl
  have hchars : "\n".toList = ['\n'] := by decide
  rw [← intercalate_cut '\n' (indent width true text.toList), hlines]
  simp [indented, segments, String.toList_intercalate, hchars, Function.comp_def, toList_shifted]

example : indented 2 "a\n\n b\n" = "  a\n\n   b\n" := by decide

end Text

/-! ## Documents one level further in -/

/-- Whether a text is another one with its lines indented, where both go on with a line of which
there is so much. Behind a margin something must follow that belongs to the line. -/
def LineState.IndentsTo (width : Nat) (s : LineState) (cs ds : List Char) : Prop :=
  match s with
  | .empty => ds = Text.indent width true cs
  | .indented => (∃ c rest, cs = c :: rest ∧ c ≠ '\n') ∧ ds = Text.indent width false cs
  | .filled => ds = Text.indent width false cs

namespace LineState

variable {width : Nat} {cs ds : List Char}

/-- Text behind a margin, or further on in a line, stays as it is. -/
theorem IndentsTo.text {s : LineState} {text : String} (h : IndentsTo width .filled cs ds)
    (hs : s ≠ .empty) (hne : text ≠ "") (hplain : '\n' ∉ text.toList) :
    IndentsTo width s (text.toList ++ cs) (text.toList ++ ds) := by
  have hindent : text.toList ++ ds = Text.indent width false (text.toList ++ cs) := by
    rw [Text.indent_append hplain]
    exact congrArg (text.toList ++ ·) h
  cases s with
  | empty => exact absurd rfl hs
  | filled => exact hindent
  | indented =>
    have hchars : text.toList ≠ [] := by simpa using hne
    obtain ⟨c, rest, hcons⟩ := List.exists_cons_of_ne_nil hchars
    refine ⟨⟨c, rest ++ cs, by rw [hcons, List.cons_append], ?_⟩, hindent⟩
    rintro rfl
    exact hplain (hcons ▸ List.mem_cons_self)

/-- The margin of a line becomes wider by one level. -/
theorem IndentsTo.margin (h : IndentsTo width .indented cs ds) (levels : Nat) :
    IndentsTo width .empty (List.replicate (levels * width) ' ' ++ cs)
      (List.replicate ((levels + 1) * width) ' ' ++ ds) := by
  obtain ⟨⟨c, rest, rfl, hc⟩, rfl⟩ := h
  rw [IndentsTo, Text.indent_replicate hc, Nat.succ_mul, Nat.add_comm]

theorem IndentsTo.newline {s : LineState} (h : IndentsTo width .empty cs ds) (hs : s ≠ .indented) :
    IndentsTo width s ('\n' :: cs) ('\n' :: ds) := by
  have hindent (atStart : Bool) : '\n' :: ds = Text.indent width atStart ('\n' :: cs) := by
    rw [Text.indent_newline]
    exact congrArg ('\n' :: ·) h
  cases s with
  | empty => exact hindent true
  | filled => exact hindent false
  | indented => exact absurd rfl hs

end LineState

/-- No class is written by an empty name. -/
theorem ImportTable.nameOf_ne_empty (t : ImportTable) (r : Reference) : t.nameOf r ≠ "" := by
  have hwildcard : Reference.wildcardName ≠ "" := by decide
  rcases t.nameOf_eq_dotted r with hname | ⟨parts, hne, hname⟩
  · rwa [hname]
  · rw [hname]
    exact dotted_ne_empty hne

namespace Doc

/-- One level further in, a document has the same text with its lines indented. -/
theorem indentsTo_write {d : Doc} {s : LineState} (h : LineState.run true s d = some .empty)
    (width level : Nat) (t : ImportTable) :
    s.IndentsTo width (write width level t.nameOf d).toList
      (write width (level + 1) t.nameOf d).toList := by
  -- The state of the line tells which of the three forms of `IndentsTo` holds for the rest.
  induction d generalizing s with
  | nil =>
    cases h
    rfl
  | cons p d ih =>
    obtain ⟨next, hstep, hrun⟩ := LineState.run_cons_eq_some h
    have hrest := ih hrun
    rw [write_cons, write_cons, String.toList_append, String.toList_append]
    cases p with
    | margin depth =>
      obtain ⟨rfl, rfl⟩ := LineState.step_margin_iff.1 hstep
      have hlevels : level + 1 + depth = level + depth + 1 := by omega
      simp only [Piece.write, String.toList_ofList, hlevels]
      exact hrest.margin (level + depth)
    | text text =>
      obtain ⟨rfl, rfl⟩ | ⟨hne, hs, hplain, rfl⟩ := LineState.step_text_iff.1 hstep
      · exact hrest
      · exact hrest.text hs hne (hplain rfl)
    | newline =>
      obtain ⟨hs, rfl⟩ := LineState.step_newline_iff.1 hstep
      have hchars : "\n".toList = ['\n'] := by decide
      simp only [Piece.write, hchars, List.singleton_append]
      exact hrest.newline hs
    | name r =>
      obtain ⟨hs, rfl⟩ := LineState.step_name_iff.1 hstep
      exact hrest.text hs (t.nameOf_ne_empty r) (isOrdinary_nameOf t r).newline_not_mem

/-- The text of whole lines between braces. -/
theorem write_braced {d : Doc} (h : d.IsLines true) (width : Nat) (t : ImportTable) :
    write width 0 t.nameOf (braced [] d)
      = "\x7b\n" ++ Text.indented width (write width 0 t.nameOf d) ++ "\x7d\n" := by
  have hopen : write width 0 t.nameOf (line (ofText "\x7b")) = "\x7b\n" := by
    simp [write, line, ofText, Piece.write]
  have hclose : write width 0 t.nameOf (line (ofText "\x7d")) = "\x7d\n" := by
    simp [write, line, ofText, Piece.write]
  have hbody : write width 1 t.nameOf d = Text.indented width (write width 0 t.nameOf d) := by
    rw [← String.toList_inj, Text.toList_indented]
    exact indentsTo_write h width 0 t
  rw [braced, write_append, write_append, write_nest, List.nil_append, hopen, hclose, hbody]

end Doc

/-! ## Blocks -/

namespace Writer

/-- A block is written with the imports of its statements, and as their text between braces, with
the width of a level put before every line that is not empty. -/
theorem writeStatements_block (w : Writer) (body : List Statement)
    (h : ∀ leaf ∈ statementsLeaves body, leaf.IsUnbroken) :
    (w.writeStatements [.block false body]).1.imports = (w.writeStatements body).1.imports ∧
    (w.writeStatements [.block false body]).1.source
      = "\x7b\n" ++ Text.indented w.options.indentWidth (w.writeStatements body).1.source ++
        "\x7d\n" := by
  have hblock : statementsDoc [.block false body] = Doc.braced [] (statementsDoc body) :=
    List.append_nil _
  have hreferences : Doc.references (statementsDoc [.block false body])
      = Doc.references (statementsDoc body) := by
    rw [hblock, Doc.braced, Doc.references_append, Doc.references_append, Doc.references_nest]
    exact List.append_nil _
  have hlines : (statementsDoc body).IsLines true :=
    (Doc.marginShape true).lines_statements body fun leaf hleaf _ => h leaf hleaf
  unfold writeStatements putBody
  constructor
  · change (ImportTable.enterAll _ _).imports = (ImportTable.enterAll _ _).imports
    rw [hreferences]
  · rw [source_put_reset, source_put_reset, hreferences, hblock]
    exact Doc.write_braced hlines _ _

/-- A block with a comment of two lines, a blank line, and a statement that goes over several lines
because it creates an object of a class that is written in its place. -/
theorem writeStatements_block_anonymous :
    let runnable : Reference :=
      .compiled ⟨[{ text := "java" }, { text := "lang" }], [], { text := "Runnable" }⟩ [] [] false
    let run : Method :=
      { header := ⟨[.line "nothing"], [.override], {}, false, .void, { text := "run" }, [], []⟩
        body := []
        result := none }
    let body : List Statement :=
      [.comment (.block "first\nsecond"), .emptyLine,
        .expression (.call { text := "start" } .implicit []
          [.anonymousClass runnable [] [run], .value (.string "a\nb")] .void)]
    let w := ofOptions { indentWidth := 4 }
    (∀ leaf ∈ statementsLeaves body, leaf.IsUnbroken) ∧
      (w.writeStatements [.block false body]).1.imports = (w.writeStatements body).1.imports ∧
      (w.writeStatements [.block false body]).1.source
        = "\x7b\n" ++ Text.indented 4 (w.writeStatements body).1.source ++ "\x7d\n" := by
  intro runnable run body w
  have hunbroken : ∀ leaf ∈ statementsLeaves body, leaf.IsUnbroken := by
    simp [body, run, statementsLeaves, Statement.leaves, Expr.leaves, exprsLeaves, Receiver.leaves,
      methodsLeaves, Method.leaves, Value.leaves, Leaf.IsUnbroken]
  exact ⟨hunbroken, writeStatements_block w body hunbroken⟩

end Writer

end JavaSyntax
