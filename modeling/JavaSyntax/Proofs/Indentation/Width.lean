import JavaSyntax.Proofs.Indentation.Margins
import JavaSyntax.Writer
import Mathlib.Data.List.Forall2

/-!
# The width of a level

How wide a level of indentation is decides how many spaces a line begins with, and nothing else.
Margins are the only part of a document whose text depends on the width, and they stand where lines
begin. So the text without the spaces that its lines begin with is the same for every width.
-/

set_option autoImplicit false

namespace JavaSyntax

/-! ## Text without indentation -/

namespace Text

/-- A line without the spaces that it begins with. -/
def unindented (line : String) : String := String.ofList (line.toList.dropWhile (· == ' '))

/-- The characters of a text without the spaces that its lines begin with. The text may begin where
a line does, or further on. -/
def unindent : Bool → List Char → List Char
  | _, [] => []
  | atStart, c :: cs =>
    if c = '\n' then c :: unindent true cs
    else if atStart = true ∧ c = ' ' then unindent true cs
    else c :: unindent false cs

theorem unindent_newline (atStart : Bool) (cs : List Char) :
    unindent atStart ('\n' :: cs) = '\n' :: unindent true cs := by
  simp [unindent]

/-- The spaces of a margin are not to be seen. -/
theorem unindent_replicate (n : Nat) (cs : List Char) :
    unindent true (List.replicate n ' ' ++ cs) = unindent true cs := by
  induction n with
  | zero => rfl
  | succ n ih => simpa [List.replicate_succ, unindent] using ih

/-- Behind the same text, what makes no difference anywhere makes none. -/
theorem unindent_append_congr {ds ds' : List Char}
    (h : ∀ atStart, unindent atStart ds = unindent atStart ds') (atStart : Bool) (cs : List Char) :
    unindent atStart (cs ++ ds) = unindent atStart (cs ++ ds') := by
  induction cs generalizing atStart with
  | nil => exact h atStart
  | cons c cs ih => simp only [List.cons_append, unindent, ih]

/-- The lines without indentation are the lines, each without its indentation; of the first one
there may be too much already. -/
theorem cut_unindent (atStart : Bool) {cs first : List Char} {others : List (List Char)}
    (h : cut '\n' cs = first :: others) :
    cut '\n' (unindent atStart cs)
      = (if atStart then first.dropWhile (· == ' ') else first)
          :: others.map (List.dropWhile (· == ' ')) := by
  induction cs generalizing atStart first others with
  | nil =>
    cases h
    simp [unindent, cut]
  | cons c cs ih =>
    obtain ⟨second, rest, hcut⟩ := List.exists_cons_of_ne_nil (cut_ne_nil '\n' cs)
    by_cases hc : c = '\n'
    · subst hc
      simp only [cut, if_true, hcut] at h
      cases h
      rw [unindent_newline]
      simp [cut, ih true hcut]
    · simp only [cut, if_neg hc, hcut] at h
      cases h
      simp only [unindent, if_neg hc]
      split
      · next hspace =>
        obtain ⟨rfl, rfl⟩ := hspace
        simpa using ih true hcut
      · next hother =>
        have hkept : (if atStart = true then (c :: second).dropWhile (· == ' ') else c :: second)
            = c :: second := by
          cases atStart with
          | false => rfl
          | true =>
            have hne : c ≠ ' ' := by simpa using hother
            simp [hne]
        simp [cut, hc, ih false hcut, hkept]

/-- Texts that agree without indentation agree line by line. -/
theorem forall₂_of_unindent_eq {text text' : String}
    (h : unindent true text.toList = unindent true text'.toList) :
    List.Forall₂ (fun line line' => unindented line = unindented line') (segments '\n' text)
      (segments '\n' text') := by
  have hlines (cs : List Char) :
      cut '\n' (unindent true cs) = (cut '\n' cs).map (List.dropWhile (· == ' ')) := by
    obtain ⟨first, others, hcut⟩ := List.exists_cons_of_ne_nil (cut_ne_nil '\n' cs)
    rw [cut_unindent true hcut, hcut]
    rfl
  have hmap (text : String) : (segments '\n' text).map unindented
      = (cut '\n' (unindent true text.toList)).map String.ofList := by
    simp [segments, hlines, unindented, Function.comp_def]
  have heq : (segments '\n' text).map unindented = (segments '\n' text').map unindented := by
    rw [hmap, hmap, h]
  rw [← List.forall₂_eq_eq_eq, List.forall₂_map_left_iff, List.forall₂_map_right_iff] at heq
  exact heq

end Text

/-! ## Documents of different widths -/

namespace Doc

/-- Laid out at any width, a document has the same text without indentation, if it goes on with a
line that is still at its start unless it is filled. -/
theorem unindent_write {d : Doc} {s s' : LineState} (h : LineState.run false s d = some s')
    (width width' level : Nat) (nameOf : Reference → String) {atStart : Bool}
    (hstart : s ≠ .filled → atStart = true) :
    Text.unindent atStart (write width level nameOf d).toList
      = Text.unindent atStart (write width' level nameOf d).toList := by
  -- What is kept is `hstart`: a margin follows only where the text is at the start of a line.
  induction d generalizing s atStart with
  | nil => rfl
  | cons p d ih =>
    obtain ⟨next, hstep, hrun⟩ := LineState.run_cons_eq_some h
    have hfilled (hnext : next = .filled) (text : List Char) :
        Text.unindent atStart (text ++ (write width level nameOf d).toList)
          = Text.unindent atStart (text ++ (write width' level nameOf d).toList) :=
      Text.unindent_append_congr (fun _ => ih hrun fun hne => absurd hnext hne) atStart text
    rw [write_cons, write_cons, String.toList_append, String.toList_append]
    cases p with
    | margin depth =>
      obtain ⟨rfl, rfl⟩ := LineState.step_margin_iff.1 hstep
      cases hstart LineState.noConfusion
      simp only [Piece.write, String.toList_ofList, Text.unindent_replicate]
      exact ih hrun fun _ => rfl
    | text text =>
      obtain ⟨rfl, rfl⟩ | ⟨-, -, -, hnext⟩ := LineState.step_text_iff.1 hstep
      · exact ih hrun hstart
      · exact hfilled hnext text.toList
    | newline =>
      obtain ⟨-, rfl⟩ := LineState.step_newline_iff.1 hstep
      have hchars : "\n".toList = ['\n'] := by decide
      simp only [Piece.write, hchars, List.singleton_append, Text.unindent_newline]
      rw [ih hrun fun _ => rfl]
    | name r => exact hfilled (LineState.step_name_iff.1 hstep).2 (nameOf r).toList

end Doc

/-! ## Pages of different widths -/

/-- Whether two pages have the same package and imports and the same number of lines, and the lines
are equal, one by one, without the spaces that they begin with. -/
structure Emitted.SameButIndentation (e e' : Emitted) : Prop where
  package : e.package = e'.package
  imports : e.imports = e'.imports
  lines : List.Forall₂ (fun line line' => Text.unindented line = Text.unindented line')
    (Text.segments '\n' e.source) (Text.segments '\n' e'.source)

namespace Writer

/-- The same writer with levels of another width. -/
def withWidth (w : Writer) (width : Nat) : Writer := { w with options.indentWidth := width }

theorem sameButIndentation_of_isLines {d : Doc} (h : d.IsLines false) (w : Writer) (width : Nat)
    (t : ImportTable) (package : Option String) :
    (((w.reset t).put d).take package).1.SameButIndentation
      ((((w.withWidth width).reset t).put d).take package).1 := by
  refine ⟨rfl, rfl, Text.forall₂_of_unindent_eq ?_⟩
  rw [source_put_reset, source_put_reset]
  exact Doc.unindent_write h _ _ _ _ fun _ => rfl

/-- Indentation is formatting alone: whatever the width of a level is changed to, a class and
statements are written with the same package, the same imports and the same lines, but for the
spaces at their beginnings. -/
theorem sameButIndentation_withWidth (w : Writer) (width : Nat) :
    (∀ c : ClassDefinition,
      (w.writeClass c).1.SameButIndentation ((w.withWidth width).writeClass c).1) ∧
    ∀ body : List Statement,
      (w.writeStatements body).1.SameButIndentation
        ((w.withWidth width).writeStatements body).1 := by
  constructor
  · intro c
    have hlines : c.doc.IsLines false := (Doc.marginShape false).lines_class c fun _ _ => nofun
    exact sameButIndentation_of_isLines hlines w width _ _
  · intro body
    have hlines : (statementsDoc body).IsLines false :=
      (Doc.marginShape false).lines_statements body fun _ _ => nofun
    exact sameButIndentation_of_isLines hlines w width _ _

end Writer

end JavaSyntax
