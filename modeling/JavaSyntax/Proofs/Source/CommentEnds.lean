import JavaSyntax.Proofs.Source.CommentReader
import JavaSyntax.Writer

/-!
# Where comments end

A comment between delimiters holds one end of a comment, which is its own. Its lines hold none, and
none can come about where two of them meet, or where the first meets the opening, since every line
ends in a line feed. So whoever reads the characters of the comment from its opening on leaves it
right before the line feed behind its last one.

Only the characters of an end are looked for when a comment is written, though. A reader that
resolves the escapes of code units first finds further ends if a text spells a star or a slash of
one by an escape. For this reader the comment ends where it should if and only if every text in it
stays contained.
-/

set_option autoImplicit false

namespace JavaSyntax

namespace Comment

/-! ## Text that is safe to go on with -/

/-- Text in which no comment ends, and in whose last character none can begin to end. -/
structure Harmless (cs : List Char) : Prop where
  unended : Unended cs
  getLast?_ne : cs.getLast? ≠ some '*'

theorem harmless_nil : Harmless [] := ⟨List.isChain_nil, by simp⟩

theorem Harmless.unended_append {cs ds : List Char} (hc : Harmless cs) (hd : Unended ds) :
    Unended (cs ++ ds) :=
  hc.unended.append hd fun h => absurd h hc.getLast?_ne

theorem Harmless.append {cs ds : List Char} (hc : Harmless cs) (hd : Harmless ds) :
    Harmless (cs ++ ds) where
  unended := hc.unended_append hd.unended
  getLast?_ne := by
    rw [List.getLast?_append]
    cases h : ds.getLast? with
    | none => simpa using hc.getLast?_ne
    | some c => simpa [h] using hd.getLast?_ne

/-- A line feed makes any text harmless in which no comment ends. -/
theorem Unended.harmless_newline {cs : List Char} (h : Unended cs) : Harmless (cs ++ ['\n']) where
  unended := h.append (List.isChain_singleton _) (by simp)
  getLast?_ne := by simp

theorem harmless_replicate (n : Nat) : Harmless (List.replicate n ' ') where
  unended := List.isChain_replicate_of_rel n (by decide)
  getLast?_ne := by
    intro h
    have hmem := List.mem_of_getLast? h
    simp [List.mem_replicate] at hmem

/-- With the end of a comment behind it, such a text must be read as a whole for a comment to
end. -/
theorem Unended.of_append_end {cs before after : List Char} (h : Unended cs)
    (heq : cs ++ ['*', '/'] = before ++ after) (hafter : after ≠ []) : Unended before := by
  have hstar : Unended (cs ++ ['*']) := h.append (List.isChain_singleton _) (by simp)
  obtain ⟨init, c, rfl⟩ : ∃ init c, after = init ++ [c] :=
    ⟨_, _, (List.dropLast_append_getLast hafter).symm⟩
  have hlast : cs ++ ['*'] ++ ['/'] = before ++ init ++ [c] := by simpa using heq
  have hinit : cs ++ ['*'] = before ++ init := (List.append_singleton_inj.1 hlast).1
  rw [hinit] at hstar
  exact List.IsChain.left_of_append hstar

theorem Unended.append_end_inj {cs before after : List Char} (h : Unended cs)
    (heq : cs ++ ['*', '/'] = before ++ '*' :: '/' :: after) : before = cs ∧ after = [] := by
  have hsplit : cs ++ ['*', '/'] = before ++ ['*', '/'] ++ after := by simpa using heq
  by_cases hafter : after = []
  · subst hafter
    exact ⟨(List.append_cancel_right heq).symm, rfl⟩
  · have hend : Unended (before ++ ['*', '/']) := h.of_append_end hsplit hafter
    exact absurd rfl ((List.isChain_append_cons_cons.1 hend).2.1 rfl)

end Comment

/-! ## Laid out comments -/

section Layout

variable {width level : Nat} {nameOf : Reference → String}

/-- A line of text with the margin of its level before it. -/
theorem Doc.toList_write_line (s : String) :
    (Doc.write width level nameOf (Doc.line (Doc.ofText s))).toList
      = List.replicate (level * width) ' ' ++ s.toList ++ ['\n'] := by
  simp [Doc.line, Doc.ofText, Doc.write, Piece.write]

namespace Comment

theorem harmless_line (text : String) :
    Harmless (Doc.write width level nameOf
      (lineDoc " *" (String.ofList (defuse text.toList)))).toList := by
  rw [lineDoc, Doc.toList_write_line]
  have hbody : Unended (if (String.ofList (defuse text.toList)).isEmpty then " *"
      else " *" ++ " " ++ String.ofList (defuse text.toList)).toList := by
    split
    · decide
    · have hmarker : Harmless " * ".toList := ⟨by decide, by decide⟩
      simpa using hmarker.unended_append (unended_defuse text.toList)
  exact ((harmless_replicate _).unended_append hbody).harmless_newline

/-- What stands between the first line of a comment and its end. -/
theorem harmless_lines (lines : List String) :
    Harmless (Doc.write width level nameOf
      (lines.flatMap fun l => lineDoc " *" (String.ofList (defuse l.toList)))).toList := by
  refine Doc.flatMap_of (P := fun d => Harmless (Doc.write width level nameOf d).toList)
    harmless_nil (fun hc hd => ?_) fun l _ => harmless_line l
  rw [Doc.write_append, String.toList_append]
  exact hc.append hd

/-- The lines of a comment, for a reader that resolves escapes first, are their texts. -/
theorem contained_line_append (text : String) {rest : List Char} :
    Contained ((Doc.write width level nameOf
      (lineDoc " *" (String.ofList (defuse text.toList)))).toList ++ rest)
      ↔ Contained (defuse text.toList) ∧ Contained rest := by
  have hstar : Contained ['*'] := Unended.contained (by decide) (by decide)
  have hempty : Contained [] := Unended.contained (by decide) (by decide)
  rw [lineDoc, Doc.toList_write_line, List.append_assoc, List.append_assoc,
    contained_replicate_append]
  split
  · next hnil =>
    have hdefuse : defuse text.toList = [] := by simpa [String.isEmpty_iff] using hnil
    have hline : " *".toList ++ (['\n'] ++ rest) = ' ' :: (['*'] ++ '\n' :: rest) := rfl
    rw [hline, contained_gap_cons (.inl rfl), contained_append_gap (.inr rfl), hdefuse,
      and_iff_right hstar, and_iff_right hempty]
  · have hline : (" *" ++ " " ++ String.ofList (defuse text.toList)).toList ++ (['\n'] ++ rest)
        = ' ' :: (['*'] ++ ' ' :: (defuse text.toList ++ '\n' :: rest)) := by simp
    rw [hline, contained_gap_cons (.inl rfl), contained_append_gap (.inl rfl),
      and_iff_right hstar, contained_append_gap (.inr rfl)]

theorem contained_lines_append (lines : List String) {rest : List Char} :
    Contained ((Doc.write width level nameOf
      (lines.flatMap fun l => lineDoc " *" (String.ofList (defuse l.toList)))).toList ++ rest)
      ↔ (∀ l ∈ lines, Contained (defuse l.toList)) ∧ Contained rest := by
  induction lines with
  | nil => simp [Doc.write]
  | cons l lines ih =>
    rw [List.flatMap_cons, Doc.write_append, String.toList_append, List.append_assoc,
      contained_line_append, ih, List.forall_mem_cons, and_assoc]

/-- Behind the opening of a comment, the first end is right before the line feed behind it. -/
theorem exists_toList_write_delimited {opening : String} (marks : List Char)
    (hopening : opening.toList = '/' :: '*' :: marks) (hmarks : Unended marks)
    (hplain : '\\' ∉ marks) (lines : List String) :
    ∃ body, Unended (body ++ [' ']) ∧
      (Contained body ↔ ∀ l ∈ lines, Contained (defuse l.toList)) ∧
      (Doc.write width level nameOf (delimitedDoc opening lines)).toList
        = List.replicate (level * width) ' ' ++ ['/', '*'] ++ (body ++ [' '] ++ ['*', '/']) ++
          ['\n'] := by
  have hspace : Harmless [' '] := ⟨by decide, by decide⟩
  refine ⟨marks ++ ['\n'] ++
    (Doc.write width level nameOf
      (lines.flatMap fun l => lineDoc " *" (String.ofList (defuse l.toList)))).toList ++
    List.replicate (level * width) ' ', ?_, ?_, ?_⟩
  · rw [List.append_assoc]
    exact ((hmarks.harmless_newline.append (harmless_lines lines)).append
      ((harmless_replicate _).append hspace)).unended
  · have hmargin : Contained (List.replicate (level * width) ' ') := by
      rw [← List.append_nil (List.replicate _ _), contained_replicate_append]
      exact Unended.contained (by decide) (by decide)
    rw [List.append_assoc, List.append_assoc, List.singleton_append,
      contained_append_gap (.inr rfl), contained_lines_append, and_iff_right (hmarks.contained hplain), and_iff_left hmargin]
  · rw [delimitedDoc, Doc.write_append, Doc.write_append, String.toList_append,
      String.toList_append, Doc.toList_write_line, Doc.toList_write_line, hopening]
    simp

/-- The texts of the lines between the delimiters of a comment. An entry of documentation is one
text, line feeds in it included. -/
def texts : Comment → List String
  | line text | block text => Text.lines text
  | javadoc entries => entries

variable (width level nameOf) in
theorem exists_toList_write {c : Comment} (hc : ∀ text, c ≠ .line text) :
    ∃ body, Unended (body ++ [' ']) ∧
      (Contained body ↔ ∀ l ∈ c.texts, Contained (defuse l.toList)) ∧
      (Doc.write width level nameOf c.doc).toList
        = List.replicate (level * width) ' ' ++ ['/', '*'] ++ (body ++ [' '] ++ ['*', '/']) ++
          ['\n'] := by
  cases c with
  | line text => exact absurd rfl (hc text)
  | block text =>
    exact exists_toList_write_delimited [] (by decide) (by decide) (by decide) (Text.lines text)
  | javadoc entries =>
    exact exists_toList_write_delimited ['*'] (by decide) (by decide) (by decide) entries

end Comment

end Layout

/-! ## Reading a comment -/

namespace Scan

variable {strict : Bool} {brackets : List Bracket} {inner : List Char}

/-- Until all of it has been read, whoever begins to read a comment is inside of it. -/
theorem run_comment_of_ne_nil (h : Comment.Unended inner) {before after : List Char}
    (heq : inner ++ ['*', '/'] = before ++ after) (hafter : after ≠ []) :
    ∃ s, run strict ⟨.code, brackets⟩ (['/', '*'] ++ before) = some s ∧ InComment brackets s := by
  have hopening : run strict ⟨.code, brackets⟩ ['/', '*'] = some ⟨.blockComment, brackets⟩ := rfl
  obtain ⟨s, hrun, hs⟩ : ∃ s, run strict ⟨.blockComment, brackets⟩ before = some s ∧
      InComment brackets s :=
    run_unended (.inl rfl) (h.of_append_end heq hafter) (by simp)
  exact ⟨s, run_append_of_eq_some hopening hrun, hs⟩

/-- Whoever has read a comment is where the comment began. -/
theorem run_comment (h : Comment.Unended inner) :
    run strict ⟨.code, brackets⟩ (['/', '*'] ++ (inner ++ ['*', '/']))
      = some ⟨.code, brackets⟩ := by
  have hopening : run strict ⟨.code, brackets⟩ ['/', '*'] = some ⟨.blockComment, brackets⟩ := rfl
  obtain ⟨s, hrun, hs⟩ : ∃ s, run strict ⟨.blockComment, brackets⟩ inner = some s ∧
      InComment brackets s :=
    run_unended (.inl rfl) h (by simp)
  have hend : run strict s ['*', '/'] = some ⟨.code, brackets⟩ := by
    rcases hs with rfl | rfl <;> rfl
  exact run_append_of_eq_some hopening (run_append_of_eq_some hrun hend)

end Scan

namespace Writer

/-- A comment between delimiters is written as its margin, an opening, and text that holds the end
of a comment once and as the last thing, before a line feed. So a scanner of characters that comes
to the opening in code stays in the comment until all of that text has been read, and is back in
code then. A reader that resolves the escapes of code units first stops there as well if and only if
the texts stay contained, and texts without a backslash do. -/
theorem putComment_ends (w : Writer) (c : Comment) (hc : ∀ text, c ≠ .line text) :
    ∃ inner : List Char,
      (w.putComment c).buffer.toList
        = w.buffer.toList ++ (List.replicate (w.indentLevel * w.options.indentWidth) ' ' ++
          ['/', '*'] ++ (inner ++ ['*', '/']) ++ ['\n']) ∧
      (∀ before after, inner ++ ['*', '/'] = before ++ '*' :: '/' :: after →
        before = inner ∧ after = []) ∧
      (∀ strict brackets,
        (∀ before after, inner ++ ['*', '/'] = before ++ after → after ≠ [] →
          ∃ s, Scan.run strict ⟨.code, brackets⟩ (['/', '*'] ++ before) = some s ∧
            Scan.InComment brackets s) ∧
        Scan.run strict ⟨.code, brackets⟩ (['/', '*'] ++ (inner ++ ['*', '/']))
          = some ⟨.code, brackets⟩) ∧
      (∀ rest after, Text.resolveUnits false rest = some after →
        (Text.readComment (['/', '*'] ++ (inner ++ ['*', '/']) ++ rest) = some after ↔
          ∀ l ∈ c.texts, Comment.Contained (Comment.defuse l.toList))) ∧
      ∀ l ∈ c.texts, '\\' ∉ l.toList → Comment.Contained (Comment.defuse l.toList) := by
  obtain ⟨body, hinner, hcontained, hwrite⟩ := Comment.exists_toList_write w.options.indentWidth
    w.indentLevel (w.imports.enterAll (Doc.references c.doc)).nameOf hc
  refine ⟨body ++ [' '], ?_, fun before after => hinner.append_end_inj,
    fun strict brackets => ⟨?_, ?_⟩, fun rest after hrest => ?_, fun l _ hl => ?_⟩
  · rw [← hwrite, ← String.toList_append]
    rfl
  · exact fun before after => Scan.run_comment_of_ne_nil hinner
  · exact Scan.run_comment hinner
  · rw [Comment.readComment_eq_some_iff (.inl rfl) hrest, hcontained]
  · exact (Comment.unended_defuse l.toList).contained (Comment.not_mem_defuse (by decide) hl)

/-- An entry that tries to end the comment four times, in its first line and in its second. -/
theorem putComment_ends_hazards :
    let w : Writer := { ofOptions {} with indentLevel := 1 }
    let c : Comment := .javadoc ["*/ **/ *", "/\n*/*/"]
    (∀ text, c ≠ .line text) ∧
      (w.putComment c).buffer
        = "  /**\n   * &#42;/ *&#42;/ *\n   * /\n&#42;/&#42;/\n   */\n" ∧
      ∃ inner : List Char, (w.putComment c).buffer.toList
          = List.replicate 2 ' ' ++ ['/', '*'] ++ (inner ++ ['*', '/']) ++ ['\n'] ∧
        Scan.run true .start (['/', '*'] ++ (inner ++ ['*', '/'])) = some .start ∧
        Text.readComment (['/', '*'] ++ (inner ++ ['*', '/']) ++ []) = some [] := by
  intro w c
  have hc : ∀ text, c ≠ .line text := by simp [c]
  obtain ⟨inner, hbuffer, -, hscan, hread, hplain⟩ := putComment_ends w c hc
  have hend : Text.resolveUnits false [] = some [] := by rw [Text.resolveUnits]
  refine ⟨hc, by decide +kernel, inner, hbuffer, (hscan true []).2, (hread [] [] hend).2 ?_⟩
  exact fun l hl => hplain l hl ((by decide : ∀ l ∈ c.texts, '\\' ∉ l.toList) l hl)

/-- A star that is spelled by an escape is not looked for, so the reader is back in code in the
middle of the text, and not at the line feed behind the comment. -/
theorem putComment_ends_escaped :
    let w : Writer := ofOptions {}
    let c : Comment := .block "\\u002a/ evil(); /*"
    (w.putComment c).buffer = "/*\n * \\u002a/ evil(); /*\n */\n" ∧
      Text.readComment (w.putComment c).buffer.toList
        = some (Text.units " evil(); /*\n */\n") ∧
      Text.readComment (w.putComment c).buffer.toList ≠ some (Text.units "\n") := by
  intro w c
  have hbuffer : (w.putComment c).buffer = "/*\n * \\u002a/ evil(); /*\n */\n" := by
    decide +kernel
  have hsource : "/*\n * \\u002a/ evil(); /*\n */\n".toList
      = "/*\n * ".toList ++ '\\' :: "u002a/ evil(); /*\n */\n".toList := by
    decide +kernel
  have hunit : Text.hexUnit? ("u002a/ evil(); /*\n */\n".toList.dropWhile (· == 'u'))
      = some ('*'.toNat, "/ evil(); /*\n */\n".toList) := by
    decide +kernel
  have hbefore : Text.Inert false "/*\n * ".toList := Text.inert_of_not_mem (by decide +kernel)
  have hbehind : Text.Inert false "/ evil(); /*\n */\n".toList :=
    Text.inert_of_not_mem (by decide +kernel)
  have hunits : Text.resolveUnits false (w.putComment c).buffer.toList
      = some (Text.units "/*\n * */ evil(); /*\n */\n") := by
    rw [hbuffer, hsource, hbefore.resolveUnits_append,
      Text.resolveUnits_escape (by decide +kernel), hunit, Option.bind_some]
    dsimp only
    rw [hbehind.resolveUnits_eq_some]
    decide +kernel
  have hread : Text.readComment (w.putComment c).buffer.toList
      = some (Text.units " evil(); /*\n */\n") := by
    rw [Text.readComment, hunits]
    decide +kernel
  refine ⟨hbuffer, hread, ?_⟩
  rw [hread]
  decide +kernel

end Writer

end JavaSyntax
