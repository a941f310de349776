import JavaSyntax.Proofs.Shapes.Trees

/-!
# Margins

Every line that a tree is written on begins with its margin or is empty, and margins stand nowhere
else: neither a text nor a name comes before the margin of its line, and no line is a margin alone.
A `LineState` is what the pieces of a document have made of the line so far, and this rule is what
a state can go on with. It is a shape, and so every tree obeys it. A strict state also refuses text
with a line feed in it; trees obey this as well if their comments and literals stay in their lines.
-/

set_option autoImplicit false

namespace JavaSyntax

/-- What there is of a line. -/
inductive LineState where
  /-- Nothing. -/
  | empty
  /-- A margin, and nothing behind it. -/
  | indented
  /-- Something that is not a margin. -/
  | filled
  deriving DecidableEq, Repr

namespace LineState

/-- What a piece makes of a line. Behind a text with a line feed in it the line counts as filled,
because whatever follows continues the text. -/
def step (strict : Bool) (s : LineState) : Piece → Option LineState
  | .margin _ => if s = .empty then some .indented else none
  | .text text =>
    if text = "" then some s
    else if s = .empty ∨ strict = true ∧ '\n' ∈ text.toList then none
    else some .filled
  | .newline => if s = .indented then none else some .empty
  | .name _ => if s = .empty then none else some .filled

/-- What a document makes of a line. -/
def run (strict : Bool) (s : LineState) (d : Doc) : Option LineState := d.foldlM (step strict) s

variable {strict : Bool} {s s' s'' : LineState}

/-! ### What a step can do -/

theorem step_margin_iff {depth : Nat} :
    step strict s (.margin depth) = some s' ↔ s = .empty ∧ s' = .indented := by
  simp [step, eq_comm]

theorem step_text_iff {text : String} :
    step strict s (.text text) = some s' ↔
      text = "" ∧ s' = s ∨
      text ≠ "" ∧ s ≠ .empty ∧ (strict = true → '\n' ∉ text.toList) ∧ s' = .filled := by
  by_cases hempty : text = ""
  · simp [step, hempty, eq_comm]
  · simp [step, hempty, eq_comm, and_assoc]

theorem step_newline_iff : step strict s .newline = some s' ↔ s ≠ .indented ∧ s' = .empty := by
  simp [step, eq_comm]

theorem step_name_iff {r : Reference} :
    step strict s (.name r) = some s' ↔ s ≠ .empty ∧ s' = .filled := by
  simp [step, eq_comm]

/-- Behind what is to be seen, a line is filled. -/
theorem eq_filled_of_step {p : Piece} (hp : p.isVisible = true) (h : step strict s p = some s') :
    s' = .filled := by
  cases p with
  | margin depth => cases hp
  | newline => cases hp
  | text text =>
    have hne : text ≠ "" := by simpa [Piece.isVisible] using hp
    obtain ⟨hempty, -⟩ | ⟨-, -, -, hfilled⟩ := step_text_iff.1 h
    · exact absurd hempty hne
    · exact hfilled
  | name r => exact (step_name_iff.1 h).2

/-! ### Runs -/

theorem run_cons {p : Piece} (h : step strict s p = some s') (d : Doc) :
    run strict s (p :: d) = run strict s' d := by
  change (step strict s p).bind (fun s' => run strict s' d) = _
  rw [h]
  rfl

theorem run_cons_eq_some {p : Piece} {d : Doc} (h : run strict s (p :: d) = some s'') :
    ∃ s', step strict s p = some s' ∧ run strict s' d = some s'' :=
  Option.bind_eq_some_iff.1 h

theorem run_append (strict : Bool) (s : LineState) (c d : Doc) :
    run strict s (c ++ d) = (run strict s c).bind fun s' => run strict s' d :=
  List.foldlM_append

theorem run_append_of_eq_some {c d : Doc} (hc : run strict s c = some s')
    (hd : run strict s' d = some s'') : run strict s (c ++ d) = some s'' := by
  rw [run_append, hc]
  exact hd

/-- How deep the margins are makes no difference. -/
theorem run_nest (strict : Bool) (s : LineState) (d : Doc) :
    run strict s (Doc.nest d) = run strict s d := by
  have hstep : (fun s p => step strict s (Piece.nest p)) = step strict := by
    funext s p
    cases p <;> rfl
  rw [run, Doc.nest, List.foldlM_map, hstep]
  rfl

end LineState

/-- Whether the text of a leaf stays in the lines that are made for it. The text of a line comment
or block comment is cut into its lines. -/
def Leaf.IsUnbroken : Leaf → Prop
  | .comment (.javadoc entries) => ∀ entry ∈ entries, '\n' ∉ entry.toList
  | .comment _ => True
  | .literal l => '\n' ∉ l.text.toList

namespace Doc

/-! ## Parts of lines, and whole lines -/

/-- Whether a document can stand in a line, behind its margin, and does not end that line. -/
def IsInline (strict : Bool) (d : Doc) : Prop :=
  ∀ s, s ≠ .empty → ∃ s', s' ≠ .empty ∧ LineState.run strict s d = some s'

/-- Whether a document consists of whole lines. -/
def IsLines (strict : Bool) (d : Doc) : Prop := LineState.run strict .empty d = some .empty

variable {strict : Bool} {c d : Doc}

theorem isInline_nil : IsInline strict [] := fun s hs => ⟨s, hs, rfl⟩

theorem IsInline.append (hc : IsInline strict c) (hd : IsInline strict d) :
    IsInline strict (c ++ d) := by
  intro s hs
  obtain ⟨s', hs', hrun⟩ := hc s hs
  obtain ⟨s'', hs'', hrest⟩ := hd s' hs'
  exact ⟨s'', hs'', LineState.run_append_of_eq_some hrun hrest⟩

theorem isInline_text {text : String} (h : strict = true → '\n' ∉ text.toList) :
    IsInline strict (ofText text) := by
  intro s hs
  by_cases hempty : text = ""
  · have hstep : LineState.step strict s (.text text) = some s :=
      LineState.step_text_iff.2 (.inl ⟨hempty, rfl⟩)
    exact ⟨s, hs, LineState.run_cons hstep []⟩
  · have hstep : LineState.step strict s (.text text) = some .filled :=
      LineState.step_text_iff.2 (.inr ⟨hempty, hs, h, rfl⟩)
    exact ⟨.filled, LineState.noConfusion, LineState.run_cons hstep []⟩

theorem isInline_name (r : Reference) : IsInline strict [.name r] :=
  fun _ hs =>
    ⟨.filled, LineState.noConfusion, LineState.run_cons (LineState.step_name_iff.2 ⟨hs, rfl⟩) []⟩

theorem IsInline.parens (h : IsInline strict d) : IsInline strict (parens d) := by
  have hopen : IsInline strict (ofText "(") := isInline_text fun _ => by decide
  have hclose : IsInline strict (ofText ")") := isInline_text fun _ => by decide
  exact (hopen.append h).append hclose

theorem isLines_nil : IsLines strict [] := rfl

theorem IsLines.append (hc : IsLines strict c) (hd : IsLines strict d) : IsLines strict (c ++ d) :=
  LineState.run_append_of_eq_some hc hd

theorem IsLines.nest (h : IsLines strict d) : IsLines strict (nest d) :=
  (LineState.run_nest strict .empty d).trans h

theorem isLines_newline : IsLines strict [.newline] := rfl

/-- What can stand in a line, and is to be seen at its end, is a line. -/
theorem IsInline.line (h : IsInline strict d) (hend : endsVisibly d = true) :
    IsLines strict (line d) := by
  obtain ⟨s, -, hrun⟩ := h .indented LineState.noConfusion
  obtain ⟨last, hlast, hvisible⟩ := (Option.any_eq_true _ _).1 hend
  obtain ⟨front, rfl⟩ := List.getLast?_eq_some_iff.1 hlast
  have hfilled : s = .filled := by
    rw [LineState.run_append, Option.bind_eq_some_iff] at hrun
    obtain ⟨s', -, hstep⟩ := hrun
    obtain ⟨s'', hstep, hnil⟩ := LineState.run_cons_eq_some hstep
    cases hnil
    exact LineState.eq_filled_of_step hvisible hstep
  subst hfilled
  exact LineState.run_append_of_eq_some (c := .margin 0 :: (front ++ [last])) hrun rfl

theorem isLines_ofText {text : String} (hne : text ≠ "") (h : strict = true → '\n' ∉ text.toList) :
    IsLines strict (line (ofText text)) := by
  refine (isInline_text h).line ?_
  simpa [endsVisibly, ofText, Piece.isVisible] using hne

/-- The body of a class that is written in a line. -/
theorem isInline_body (h : IsLines strict d) :
    IsInline strict ([.text "() \x7b", .newline] ++ nest d ++ [.margin 0, .text "\x7d"]) := by
  intro s hs
  have hopen : LineState.run strict s [.text "() \x7b", .newline] = some .empty := by
    have hstep : LineState.step strict s (.text "() \x7b") = some .filled :=
      LineState.step_text_iff.2 (.inr ⟨by decide, hs, fun _ => by decide, rfl⟩)
    rw [LineState.run_cons hstep]
    rfl
  have hclose : LineState.run strict .empty [.margin 0, .text "\x7d"] = some .filled := by
    cases strict <;> rfl
  exact ⟨.filled, LineState.noConfusion, LineState.run_append_of_eq_some
    (LineState.run_append_of_eq_some hopen h.nest) hclose⟩

/-! ## Comments -/

theorem isLines_lineDoc {marker text : String} (hmarker : marker ≠ "")
    (hplain : '\n' ∉ marker.toList) (h : strict = true → '\n' ∉ text.toList) :
    IsLines strict (Comment.lineDoc marker text) := by
  unfold Comment.lineDoc
  split
  · exact isLines_ofText hmarker fun _ => hplain
  · refine isLines_ofText ?_ fun hstrict => ?_
    · simp [hmarker]
    · simp [hplain, h hstrict]

theorem isLines_delimited {opening : String} {lines : List String} (hopening : opening ≠ "")
    (hplain : '\n' ∉ opening.toList) (h : strict = true → ∀ l ∈ lines, '\n' ∉ l.toList) :
    IsLines strict (Comment.delimitedDoc opening lines) := by
  have hfirst : IsLines strict (line (ofText opening)) := isLines_ofText hopening fun _ => hplain
  have hlast : IsLines strict (line (ofText " */")) := isLines_ofText (by decide) fun _ => by decide
  have hlines : IsLines strict (lines.flatMap fun l =>
      Comment.lineDoc " *" (String.ofList (Comment.defuse l.toList))) := by
    refine flatMap_of isLines_nil IsLines.append fun l hl => ?_
    refine isLines_lineDoc (by decide) (by decide) fun hstrict => ?_
    rw [String.toList_ofList]
    exact Comment.not_mem_defuse (by decide) (h hstrict l hl)
  exact (hfirst.append hlines).append hlast

theorem isLines_comment {c : Comment} (h : strict = true → (Leaf.comment c).IsUnbroken) :
    IsLines strict c.doc := by
  cases c with
  | line text =>
    rw [Comment.doc]
    split
    · exact isLines_lineDoc (by decide) (by decide) fun _ => by decide
    · refine flatMap_of isLines_nil IsLines.append fun l hl => ?_
      exact isLines_lineDoc (by decide) (by decide) fun _ => Text.newline_not_mem_of_mem_lines hl
  | block text =>
    exact isLines_delimited (by decide) (by decide) fun _ _ hl => Text.newline_not_mem_of_mem_lines hl
  | javadoc entries => exact isLines_delimited (by decide) (by decide) h

/-! ## The shape -/

/-- Margins stand where lines begin, and nowhere else. -/
def marginShape (strict : Bool) : Shape where
  Inline := IsInline strict
  Lines := IsLines strict
  Inner := IsLines strict
  Allows leaf := strict = true → leaf.IsUnbroken
  inline_nil := isInline_nil
  inline_append := IsInline.append
  inline_text h := isInline_text fun _ => h.newline_not_mem
  inline_name := isInline_name
  inline_quoted text := isInline_text fun _ => Text.newline_not_mem_quoted text
  inline_literal := isInline_text
  inline_parens := IsInline.parens
  inline_body := isInline_body
  lines_nil := isLines_nil
  lines_append := IsLines.append
  lines_newline := isLines_newline
  lines_comment := isLines_comment
  lines_line := IsInline.line
  lines_braces := by
    intro heading inner opening hheading hopening hinner
    have hplain : opening ≠ "" ∧ '\n' ∉ opening.toList := by
      simp only [List.mem_cons, List.not_mem_nil, or_false] at hopening
      rcases hopening with rfl | rfl <;> decide
    have hfirst : IsLines strict (line (heading ++ ofText opening)) :=
      (hheading.append (isInline_text fun _ => hplain.2)).line (by simp [hplain.1])
    exact (hfirst.append hinner).append (isLines_ofText (by decide) fun _ => by decide)
  inner_nil := isLines_nil
  inner_append := IsLines.append
  inner_body := IsLines.nest
  inner_else := isLines_ofText (by decide) fun _ => by decide
  inner_heading := by
    intro word d hword hd
    have hplain : '\n' ∉ word.toList := by
      simp only [List.mem_cons, List.not_mem_nil, or_false] at hword
      rcases hword with rfl | rfl <;> decide
    have hopening : IsInline strict (ofText " \x7b") := isInline_text fun _ => by decide
    refine (((isInline_text fun _ => hplain).append hd.parens).append hopening).line ?_
    rw [endsVisibly_append_text]
    decide

end Doc

end JavaSyntax
