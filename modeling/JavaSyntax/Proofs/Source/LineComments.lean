import JavaSyntax.Proofs.Source.CommentEnds

/-!
# Lines of line comments

A line of source text ends at a carriage return as well as at a line feed, and with it ends a line
comment. The lines of a text that a comment is made of end at line feeds only, and these are what
markers stand before. So a carriage return inside of such a line ends the comment, and what follows
it there is code, unless it happens to look like a comment itself. This is said for every text:
which lines of source text a comment becomes, and when all of them are comments.
-/

set_option autoImplicit false

namespace JavaSyntax

namespace Text

/-! ## Lines of source text -/

/-- The lines of source text. A line feed ends a line and so does a carriage return, but both in a
row, the carriage return first, end just one. What follows the last end of a line is a line too. -/
def sourceLines : List Char → List (List Char)
  | [] => [[]]
  | '\r' :: '\n' :: rest => [] :: sourceLines rest
  | c :: rest =>
    if Scan.isLineEnd c then [] :: sourceLines rest
    else (sourceLines rest).modifyHead (c :: ·)

theorem sourceLines_newline (rest : List Char) :
    sourceLines ('\n' :: rest) = [] :: sourceLines rest := by
  simp [sourceLines, Scan.isLineEnd]

theorem sourceLines_return {c : Char} (h : c ≠ '\n') (rest : List Char) :
    sourceLines ('\r' :: c :: rest) = [] :: sourceLines (c :: rest) := by
  rw [sourceLines]
  · simp [Scan.isLineEnd]
  · rintro rest' - heq
    exact h (List.cons.inj heq).1

theorem sourceLines_cons {c : Char} (h : Scan.isLineEnd c = false) (rest : List Char) :
    sourceLines (c :: rest) = (sourceLines rest).modifyHead (c :: ·) := by
  rw [sourceLines]
  · simp [h]
  · rintro rest' rfl
    cases h

/-! ## Parts between carriage returns -/

theorem cut_cons_of_ne {separator c : Char} (h : c ≠ separator) (cs : List Char) :
    cut separator (c :: cs) = (cut separator cs).modifyHead (c :: ·) := by
  obtain ⟨first, others, hcut⟩ := List.exists_cons_of_ne_nil (cut_ne_nil separator cs)
  simp [cut, h, hcut]

theorem chomp_append (cs : List Char) {ds : List Char} (h : ds ≠ []) :
    chomp (cs ++ ds) = cs ++ chomp ds := by
  unfold chomp
  rw [List.getLast?_append_of_ne_nil cs h, List.dropLast_append_of_ne_nil h]
  split <;> rfl

theorem chomp_cons_of_ne {c : Char} (h : c ≠ '\r') (cs : List Char) :
    chomp (c :: cs) = c :: chomp cs := by
  cases cs with
  | nil => simp [chomp, h]
  | cons d cs => exact chomp_append [c] (List.cons_ne_nil d cs)

/-- What stands before the first carriage return stays with the first part. -/
theorem cut_chomp_append {cs : List Char} (h : '\r' ∉ cs) (ds : List Char) :
    cut '\r' (chomp (cs ++ ds)) = (cut '\r' (chomp ds)).modifyHead (cs ++ ·) := by
  induction cs with
  | nil => exact (congrFun List.modifyHead_id _).symm
  | cons c cs ih =>
    simp only [List.mem_cons, not_or] at h
    rw [List.cons_append, chomp_cons_of_ne (Ne.symm h.1), cut_cons_of_ne (Ne.symm h.1), ih h.2,
      List.modifyHead_modifyHead]
    rfl

/-- Up to a line feed, the lines of source text are what carriage returns cut a text into; one right
before the line feed belongs to it. -/
theorem sourceLines_append_newline {cs : List Char} (h : '\n' ∉ cs) (rest : List Char) :
    sourceLines (cs ++ '\n' :: rest) = cut '\r' (chomp cs) ++ sourceLines rest := by
  induction cs with
  | nil => simp [sourceLines_newline, chomp, cut]
  | cons c cs ih =>
    simp only [List.mem_cons, not_or] at h
    obtain ⟨hc, hcs⟩ := h
    by_cases hreturn : c = '\r'
    · subst hreturn
      cases cs with
      | nil => simp [sourceLines, chomp, cut]
      | cons d cs =>
        have hd : d ≠ '\n' := by
          rintro rfl
          exact hcs List.mem_cons_self
        have hchomp : chomp ('\r' :: d :: cs) = '\r' :: chomp (d :: cs) :=
          chomp_append ['\r'] (List.cons_ne_nil d cs)
        rw [List.cons_append, List.cons_append, sourceLines_return hd, ← List.cons_append,
          ih hcs, hchomp]
        simp [cut]
    · have hplain : Scan.isLineEnd c = false := by simp [Scan.isLineEnd, Ne.symm hc, hreturn]
      obtain ⟨first, others, hcut⟩ := List.exists_cons_of_ne_nil (cut_ne_nil '\r' (chomp cs))
      rw [List.cons_append, sourceLines_cons hplain, ih hcs, chomp_cons_of_ne hreturn,
        cut_cons_of_ne hreturn, hcut]
      rfl

/-- The segments of a text stand in it, the first one at its beginning. -/
theorem isPrefix_and_isInfix_of_cut {separator : Char} {cs first : List Char}
    {others : List (List Char)} (h : cut separator cs = first :: others) :
    first <+: cs ∧ ∀ segment ∈ others, segment <:+: cs := by
  induction cs generalizing first others with
  | nil =>
    cases h
    exact ⟨List.prefix_rfl, by simp⟩
  | cons c cs ih =>
    obtain ⟨second, rest, hcut⟩ := List.exists_cons_of_ne_nil (cut_ne_nil separator cs)
    obtain ⟨hsecond, hrest⟩ := ih hcut
    by_cases hc : c = separator
    · rw [cut, if_pos hc, hcut] at h
      cases h
      refine ⟨List.nil_prefix, List.forall_mem_cons.2 ⟨?_, fun segment hs => ?_⟩⟩
      · exact List.infix_cons hsecond.isInfix
      · exact List.infix_cons (hrest segment hs)
    · rw [cut_cons_of_ne hc, hcut] at h
      cases h
      exact ⟨(List.prefix_cons_inj c).2 hsecond, fun segment hs =>
        List.infix_cons (hrest segment hs)⟩

theorem isInfix_of_mem_cut {separator : Char} {cs segment : List Char}
    (h : segment ∈ cut separator cs) : segment <:+: cs := by
  obtain ⟨first, others, hcut⟩ := List.exists_cons_of_ne_nil (cut_ne_nil separator cs)
  obtain ⟨hfirst, hothers⟩ := isPrefix_and_isInfix_of_cut hcut
  rw [hcut] at h
  rcases List.mem_cons.1 h with rfl | h
  · exact hfirst.isInfix
  · exact hothers segment h

theorem chomp_prefix (line : List Char) : chomp line <+: line := by
  unfold chomp
  split
  · exact List.dropLast_prefix line
  · exact List.prefix_rfl

theorem exists_prefix_of_mem_linesOfSegments {segments : List (List Char)} {line : List Char}
    (h : line ∈ linesOfSegments segments) : ∃ segment ∈ segments, line <+: segment := by
  fun_induction linesOfSegments segments with
  | case1 => cases h
  | case2 last => cases h
  | case3 last _ =>
    obtain rfl := List.mem_singleton.1 h
    exact ⟨line, List.mem_cons_self, List.prefix_rfl⟩
  | case4 first next rest ih =>
    rcases List.mem_cons.1 h with rfl | h
    · exact ⟨first, List.mem_cons_self, chomp_prefix first⟩
    · obtain ⟨segment, hs, hprefix⟩ := ih h
      exact ⟨segment, List.mem_cons_of_mem _ hs, hprefix⟩

/-- The lines of a text stand in it. -/
theorem isInfix_of_mem_lines {text line : String} (h : line ∈ lines text) :
    line.toList <:+: text.toList := by
  obtain ⟨cs, hcs, rfl⟩ := List.mem_map.1 h
  obtain ⟨segment, hs, hprefix⟩ := exists_prefix_of_mem_linesOfSegments hcs
  rw [String.toList_ofList]
  exact hprefix.isInfix.trans (isInfix_of_mem_cut hs)

/-- Where carriage returns are followed by carriage returns alone, nothing is behind the first. -/
theorem eq_nil_of_mem_tail_cut {cs part : List Char}
    (h : cs.IsChain fun c d => c = '\r' → d = '\r') (hpart : part ∈ (cut '\r' cs).tail) :
    part = [] := by
  induction cs with
  | nil => cases hpart
  | cons c cs ih =>
    obtain ⟨hnext, hcs⟩ := List.isChain_cons.1 h
    by_cases hreturn : c = '\r'
    · rw [cut, if_pos hreturn, List.tail_cons] at hpart
      cases cs with
      | nil => exact List.mem_singleton.1 hpart
      | cons d cs =>
        obtain rfl : d = '\r' := hnext d rfl hreturn
        rw [cut, if_pos rfl] at hpart ih
        rcases List.mem_cons.1 hpart with rfl | hmem
        · rfl
        · exact ih hcs hmem
    · obtain ⟨first, others, hcut⟩ := List.exists_cons_of_ne_nil (cut_ne_nil '\r' cs)
      rw [cut_cons_of_ne hreturn, hcut] at hpart
      exact ih hcs (by rwa [hcut])

end Text

namespace Comment

/-! ## Lines of a comment -/

/-- The lines of the text of a line comment, each of which gets a marker. A comment without text is
one line. -/
def textLines (text : String) : List String := if text.isEmpty then [""] else Text.lines text

/-- The marker before a line of the text, and the blank before whatever there is of the line. -/
def marker (line : String) : List Char := if line.isEmpty then ['/', '/'] else ['/', '/', ' ']

/-- The parts of a line of the text, between carriage returns; one at the end of the line belongs to
the line feed behind it. -/
def parts (line : String) : List (List Char) := Text.cut '\r' (Text.chomp line.toList)

theorem doc_line (text : String) : (line text).doc = (textLines text).flatMap (lineDoc "//") := by
  rw [doc, textLines]
  split
  · exact (List.flatMap_singleton _ _).symm
  · rfl

theorem newline_not_mem_of_mem_textLines {text l : String} (h : l ∈ textLines text) :
    '\n' ∉ l.toList := by
  unfold textLines at h
  split at h
  · simp [List.mem_singleton.1 h]
  · exact Text.newline_not_mem_of_mem_lines h

theorem not_isLineEnd_of_mem_marker {line : String} {c : Char} (h : c ∈ marker line) :
    c ≠ '\n' ∧ c ≠ '\r' := by
  have hall : ∀ c ∈ ['/', '/', ' '], c ≠ '\n' ∧ c ≠ '\r' := by simp
  unfold marker at h
  split at h
  · exact hall c (List.mem_append_left [' '] h)
  · exact hall c h

section Layout

variable {width level : Nat} {nameOf : Reference → String}

theorem toList_write_lineDoc (line : String) :
    (Doc.write width level nameOf (lineDoc "//" line)).toList
      = List.replicate (level * width) ' ' ++ marker line ++ line.toList ++ ['\n'] := by
  rw [lineDoc, Doc.toList_write_line, marker]
  by_cases hempty : line.isEmpty = true
  · have hnil : line = "" := by simpa using hempty
    simp [hnil]
  · simp [hempty]

/-- The marker stands before the first part of a line, and before no other. -/
theorem sourceLines_write_lineDoc {line : String} (h : '\n' ∉ line.toList) (rest : List Char) :
    Text.sourceLines ((Doc.write width level nameOf (lineDoc "//" line)).toList ++ rest)
      = (parts line).modifyHead (List.replicate (level * width) ' ' ++ marker line ++ ·) ++
        Text.sourceLines rest := by
  have hmargin : ∀ c ∈ List.replicate (level * width) ' ' ++ marker line, c ≠ '\n' ∧ c ≠ '\r' := by
    intro c hc
    rcases List.mem_append.1 hc with hc | hc
    · simp [(List.mem_replicate.1 hc).2]
    · exact not_isLineEnd_of_mem_marker hc
  have hfeed : '\n' ∉ List.replicate (level * width) ' ' ++ marker line ++ line.toList := by
    rw [List.mem_append, not_or]
    exact ⟨fun hc => (hmargin _ hc).1 rfl, h⟩
  have hreturn : '\r' ∉ List.replicate (level * width) ' ' ++ marker line :=
    fun hc => (hmargin _ hc).2 rfl
  rw [toList_write_lineDoc, List.append_assoc _ ['\n'], List.singleton_append,
    Text.sourceLines_append_newline hfeed, Text.cut_chomp_append hreturn, parts]

/-- The lines of source text that a line comment becomes. Behind the last of them a new line
begins. -/
theorem sourceLines_write_line (text : String) :
    Text.sourceLines (Doc.write width level nameOf (line text).doc).toList
      = (textLines text).flatMap (fun l =>
          (parts l).modifyHead (List.replicate (level * width) ' ' ++ marker l ++ ·)) ++ [[]] := by
  have hlines : ∀ l ∈ textLines text, '\n' ∉ l.toList :=
    fun l => newline_not_mem_of_mem_textLines
  rw [doc_line]
  generalize textLines text = ls at hlines
  induction ls with
  | nil => rfl
  | cons l ls ih =>
    obtain ⟨hl, hls⟩ := List.forall_mem_cons.1 hlines
    rw [List.flatMap_cons, List.flatMap_cons, Doc.write_append, String.toList_append,
      sourceLines_write_lineDoc hl, ih hls, List.append_assoc]

end Layout

/-! ## Lines that are comments -/

/-- Whether a line of source text is a comment from its margin on, or empty. -/
def IsCommentLine (margin line : List Char) : Prop := line = [] ∨ margin ++ ['/', '/'] <+: line

instance (margin line : List Char) : Decidable (IsCommentLine margin line) :=
  inferInstanceAs (Decidable (_ ∨ _))

theorem isCommentLine_marker (margin : List Char) (line : String) (cs : List Char) :
    IsCommentLine margin (margin ++ marker line ++ cs) := by
  refine .inr ?_
  rw [List.append_assoc, List.prefix_append_right_inj, marker]
  split
  · exact List.prefix_append _ _
  · exact ⟨' ' :: cs, rfl⟩

/-- What has the marker before it is a comment, so it depends on the other parts. -/
theorem forall_isCommentLine_iff {margin : List Char} {l : String} :
    (∀ line ∈ (parts l).modifyHead (margin ++ marker l ++ ·), IsCommentLine margin line) ↔
      ∀ part ∈ (parts l).tail, IsCommentLine margin part := by
  obtain ⟨first, others, hparts⟩ :=
    List.exists_cons_of_ne_nil (Text.cut_ne_nil '\r' (Text.chomp l.toList))
  rw [parts, hparts, List.modifyHead_cons, List.forall_mem_cons, List.tail_cons]
  exact and_iff_right (isCommentLine_marker margin l first)

/-- The empty text has no lines, and the line that is made for it has no other part. -/
theorem forall_mem_textLines_iff {margin : List Char} {text : String} :
    (∀ l ∈ textLines text, ∀ part ∈ (parts l).tail, IsCommentLine margin part) ↔
      ∀ l ∈ Text.lines text, ∀ part ∈ (parts l).tail, IsCommentLine margin part := by
  unfold textLines
  split
  · next hempty =>
    have hnil : text = "" := by simpa using hempty
    simp [hnil, Text.lines_empty, parts, Text.chomp, Text.cut]
  · exact Iff.rfl

/-- All lines of source text are comments if the parts without a marker are. -/
theorem forall_sourceLines_iff {width level : Nat} {nameOf : Reference → String} {text : String} :
    (∀ line ∈ Text.sourceLines (Doc.write width level nameOf (Comment.line text).doc).toList,
      IsCommentLine (List.replicate (level * width) ' ') line) ↔
    ∀ l ∈ Text.lines text, ∀ part ∈ (parts l).tail,
      IsCommentLine (List.replicate (level * width) ' ') part := by
  have hend : ∀ line ∈ [[]], IsCommentLine (List.replicate (level * width) ' ') line :=
    List.forall_mem_singleton.2 (.inl rfl)
  rw [sourceLines_write_line, List.forall_mem_append, and_iff_left hend, List.forall_mem_flatMap,
    ← forall_mem_textLines_iff]
  exact forall₂_congr fun l _ => forall_isCommentLine_iff

/-- A carriage return that only carriage returns and line feeds follow cuts nothing off. -/
theorem eq_nil_of_mem_tail_parts {text l : String} (hl : l ∈ Text.lines text)
    (h : ∀ before c after, text.toList = before ++ '\r' :: c :: after → c = '\r' ∨ c = '\n')
    {part : List Char} (hpart : part ∈ (parts l).tail) : part = [] := by
  obtain ⟨front, back, htext⟩ :=
    (Text.chomp_prefix l.toList).isInfix.trans (Text.isInfix_of_mem_lines hl)
  refine Text.eq_nil_of_mem_tail_cut ?_ hpart
  rw [List.isChain_iff_forall_rel_of_append_cons_cons]
  rintro c d before after heq rfl
  have hsplit : text.toList = (front ++ before) ++ '\r' :: d :: (after ++ back) := by
    rw [← htext, heq]
    simp
  refine (h _ _ _ hsplit).resolve_right ?_
  rintro rfl
  have hfeed : '\n' ∈ Text.chomp l.toList := by simp [heq]
  exact Text.newline_not_mem_of_mem_lines hl ((Text.chomp_prefix l.toList).subset hfeed)

end Comment

namespace Writer

/-- The lines of source text that a line comment becomes: a marker stands before the first part of
each line of its text, and before no other. So all of them are comments exactly if the other parts
look like comments of this margin by themselves or are empty, and always if nothing but carriage
returns and line feeds follows a carriage return. -/
theorem putComment_line (w : Writer) (text : String) :
    let margin := List.replicate (w.indentLevel * w.options.indentWidth) ' '
    ∃ written : List Char,
      (w.putComment (.line text)).buffer.toList = w.buffer.toList ++ written ∧
      Text.sourceLines written
        = (Comment.textLines text).flatMap (fun l =>
            (Comment.parts l).modifyHead (margin ++ Comment.marker l ++ ·)) ++ [[]] ∧
      ((∀ line ∈ Text.sourceLines written, Comment.IsCommentLine margin line) ↔
        ∀ l ∈ Text.lines text, ∀ part ∈ (Comment.parts l).tail,
          Comment.IsCommentLine margin part) ∧
      ((∀ before c after, text.toList = before ++ '\r' :: c :: after → c = '\r' ∨ c = '\n') →
        ∀ line ∈ Text.sourceLines written, Comment.IsCommentLine margin line) := by
  intro margin
  let nameOf := (w.imports.enterAll (Doc.references (Comment.line text).doc)).nameOf
  refine ⟨(Doc.write w.options.indentWidth w.indentLevel nameOf (Comment.line text).doc).toList, ?_,
    Comment.sourceLines_write_line text, Comment.forall_sourceLines_iff, fun h => ?_⟩
  · rw [← String.toList_append]
    rfl
  · refine Comment.forall_sourceLines_iff.2 fun l hl part hpart => .inl ?_
    exact Comment.eq_nil_of_mem_tail_parts hl h hpart

/-- A text with all the ends of lines that there are, and with no character behind a lone carriage
return: the comment has a marker on each of its lines. -/
theorem putComment_line_mixed :
    let w : Writer := { ofOptions {} with indentLevel := 1 }
    let text := "a\r\nb\r\r\n\nc\r"
    (∀ before c after, text.toList = before ++ '\r' :: c :: after → c = '\r' ∨ c = '\n') ∧
      (w.putComment (.line text)).buffer = "  // a\n  // b\r\n  //\n  // c\r\n" ∧
      ∀ line ∈ Text.sourceLines (w.putComment (.line text)).buffer.toList,
        Comment.IsCommentLine (List.replicate 2 ' ') line := by
  intro w text
  have hchain : text.toList.IsChain fun c d => c = '\r' → d = '\r' ∨ d = '\n' := by decide
  have htext : ∀ before c after,
      text.toList = before ++ '\r' :: c :: after → c = '\r' ∨ c = '\n' :=
    fun _ _ _ h => List.isChain_iff_forall_rel_of_append_cons_cons.1 hchain h rfl
  obtain ⟨written, hbuffer, -, -, hcomments⟩ := putComment_line w text
  refine ⟨htext, by decide +kernel, ?_⟩
  rw [hbuffer]
  exact hcomments htext

/-- A carriage return in the text of a comment ends the comment, and what follows it is code. -/
theorem putComment_line_return :
    let w : Writer := ofOptions {}
    (w.putComment (.line "old\rreturn;")).buffer = "// old\rreturn;\n" ∧
      "return;".toList ∈ Text.sourceLines (w.putComment (.line "old\rreturn;")).buffer.toList ∧
      ¬ Comment.IsCommentLine [] "return;".toList := by
  decide +kernel

end Writer

end JavaSyntax
