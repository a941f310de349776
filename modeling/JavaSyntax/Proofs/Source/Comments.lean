import JavaSyntax.Layout.Leaf
import JavaSyntax.Proofs.Source.Documents
import JavaSyntax.Proofs.Source.Leaves
import Mathlib.Data.List.Chain

/-!
# Scanning comments

A written comment is closed. A line comment goes up to the end of its line, and its text holds
no other line end unless a carriage return stands in it. In the text between delimiters a slash
never follows a star, because the star of every end of a comment is written otherwise.
-/

set_option autoImplicit false

namespace JavaSyntax

namespace Comment

/-! ## Text in which no comment ends -/

/-- Text in which no comment ends: no slash stands right behind a star. -/
def Unended (cs : List Char) : Prop := cs.IsChain fun c d => c = '*' → d ≠ '/'

instance : DecidablePred Unended := fun cs => inferInstanceAs (Decidable (List.IsChain _ cs))

theorem Unended.append {cs ds : List Char} (hc : Unended cs) (hd : Unended ds)
    (h : cs.getLast? = some '*' → ds.head? ≠ some '/') : Unended (cs ++ ds) := by
  refine List.isChain_append.2 ⟨hc, hd, ?_⟩
  rintro c hlast d hhead rfl rfl
  exact h hlast hhead

/-- A text that could begin with an end of a comment begins with a slash already. -/
theorem head?_of_head?_defuse {cs : List Char} (h : (defuse cs).head? = some '/') :
    cs.head? = some '/' := by
  unfold defuse at h
  split at h
  · cases h
  · exact h
  · cases h

/-- Every star that had a slash behind it is written otherwise, and no other star gets one. -/
theorem unended_defuse (cs : List Char) : Unended (defuse cs) := by
  fun_induction defuse cs with
  | case1 rest ih => exact Unended.append (by decide) ih fun h => absurd h (by decide)
  | case2 c rest hend ih =>
    refine List.isChain_cons.2 ⟨?_, ih⟩
    rintro d hd rfl rfl
    obtain ⟨tail, rfl⟩ := List.head?_eq_some_iff.1 (head?_of_head?_defuse hd)
    exact hend tail rfl rfl
  | case3 => exact List.isChain_nil

end Comment

namespace Scan

variable {strict : Bool} {brackets : List Bracket}

/-- Whether a scanner is inside a block comment. -/
def InComment (brackets : List Bracket) (s : Scan) : Prop :=
  s = ⟨.blockComment, brackets⟩ ∨ s = ⟨.star, brackets⟩

/-- A character other than a slash leaves the scanner inside, right behind a star only if it is
one. -/
theorem step_blockComment {c : Char} {s : Scan} (hs : InComment brackets s)
    (hc : s.mode = .star → c ≠ '/') :
    step strict s c = some ⟨if c = '*' then .star else .blockComment, brackets⟩ := by
  rcases hs with rfl | rfl
  · by_cases h : c = '*' <;> simp [step, readComment, h]
  · have hslash : c ≠ '/' := hc rfl
    by_cases h : c = '*' <;> simp [step, readComment, h, hslash]

/-- No comment ends before a slash behind a star does. -/
theorem run_unended {s : Scan} (hs : InComment brackets s) {cs : List Char}
    (h : Comment.Unended cs) (hhead : s.mode = .star → cs.head? ≠ some '/') :
    ∃ s', run strict s cs = some s' ∧ InComment brackets s' := by
  -- The invariant is the last hypothesis: behind a star, no slash comes next.
  induction cs generalizing s with
  | nil => exact ⟨s, rfl, hs⟩
  | cons c cs ih =>
    obtain ⟨hnext, hcs⟩ := List.isChain_cons.1 h
    have hc : s.mode = .star → c ≠ '/' := by
      rintro hstar rfl
      exact hhead hstar rfl
    rw [run_cons (step_blockComment hs hc)]
    by_cases hstar : c = '*'
    · rw [if_pos hstar]
      exact ih (.inr rfl) hcs fun _ hslash => hnext '/' hslash hstar rfl
    · rw [if_neg hstar]
      exact ih (.inl rfl) hcs (by simp)

end Scan

namespace Doc

variable {reading : Reading}

/-- A line of a block comment, whatever its text. -/
theorem leads_blockLine (text : String) (brackets : List Bracket) :
    Leads reading (Comment.lineDoc " *" (String.ofList (Comment.defuse text.toList)))
      ⟨.blockComment, brackets⟩ ⟨.blockComment, brackets⟩ := by
  have hmarker : Scan.run reading.strict ⟨.blockComment, brackets⟩ " *".toList
      = some ⟨.star, brackets⟩ := rfl
  have hspace : Scan.run reading.strict ⟨.star, brackets⟩ " ".toList
      = some ⟨.blockComment, brackets⟩ := rfl
  have hend : ∀ {s : Scan}, Scan.InComment brackets s →
      Scan.step reading.strict s '\n' = some ⟨.blockComment, brackets⟩ :=
    fun hs => Scan.step_blockComment hs fun _ => by decide
  unfold Comment.lineDoc
  split
  · exact leads_line rfl (leads_text hmarker) (hend (.inr rfl))
  · obtain ⟨s', hrun, hs'⟩ : ∃ s', Scan.run reading.strict ⟨.blockComment, brackets⟩
        (Comment.defuse text.toList) = some s' ∧ Scan.InComment brackets s' :=
      Scan.run_unended (.inl rfl) (Comment.unended_defuse _) (by simp)
    have hchars : (String.ofList (Comment.defuse text.toList)).toList
        = Comment.defuse text.toList := String.toList_ofList
    refine leads_line rfl (leads_text ?_) (hend hs')
    rw [String.toList_append, String.toList_append, hchars]
    exact Scan.run_append_of_eq_some (Scan.run_append_of_eq_some hmarker hspace) hrun

theorem leads_blockLines (lines : List String) (brackets : List Bracket) :
    Leads reading
      (lines.flatMap fun l => Comment.lineDoc " *" (String.ofList (Comment.defuse l.toList)))
      ⟨.blockComment, brackets⟩ ⟨.blockComment, brackets⟩ := by
  induction lines with
  | nil => exact leads_nil _
  | cons l ls ih => exact (leads_blockLine l brackets).append ih

/-- A comment between delimiters, whatever its lines. -/
theorem leads_delimited {opening : String} {s : Scan} {brackets : List Bracket}
    (hopening : Scan.run reading.strict ⟨.code, brackets⟩ opening.toList = some s)
    (hs : Scan.InComment brackets s) (lines : List String) :
    Leads reading (Comment.delimitedDoc opening lines) ⟨.code, brackets⟩ ⟨.code, brackets⟩ := by
  have hfirst : Leads reading (line (ofText opening)) ⟨.code, brackets⟩
      ⟨.blockComment, brackets⟩ :=
    leads_line rfl (leads_text hopening) (Scan.step_blockComment hs fun _ => by decide)
  have hcode : Scan.run reading.strict ⟨.blockComment, brackets⟩ " */".toList
      = some ⟨.code, brackets⟩ := rfl
  have hlast : Leads reading (line (ofText " */")) ⟨.blockComment, brackets⟩
      ⟨.code, brackets⟩ :=
    leads_line rfl (leads_text hcode) rfl
  exact (hfirst.append (leads_blockLines lines brackets)).append hlast

/-- A line comment, if its text holds no line end. -/
theorem isClosed_lineComment {text : String}
    (h : ∀ c ∈ text.toList, Scan.isLineEnd c = false) :
    IsClosed reading (Comment.lineDoc "//" text) := by
  intro brackets
  have hmarker : Scan.run reading.strict ⟨.code, brackets⟩ "//".toList
      = some ⟨.lineComment, brackets⟩ := rfl
  have hspace : Scan.run reading.strict ⟨.lineComment, brackets⟩ " ".toList
      = some ⟨.lineComment, brackets⟩ := rfl
  have htext : Scan.run reading.strict ⟨.lineComment, brackets⟩ text.toList
      = some ⟨.lineComment, brackets⟩ := by
    apply Scan.run_of_forall_step
    intro c hc
    simp [Scan.step, h c hc]
  have hend : Scan.step reading.strict ⟨.lineComment, brackets⟩ '\n'
      = some ⟨.code, brackets⟩ := rfl
  unfold Comment.lineDoc
  split
  · exact leads_line rfl (leads_text hmarker) hend
  · refine leads_line rfl (leads_text ?_) hend
    rw [String.toList_append, String.toList_append]
    exact Scan.run_append_of_eq_some (Scan.run_append_of_eq_some hmarker hspace) htext

theorem isClosed_comment {c : Comment} (h : (Leaf.comment c).IsTame reading.strict) :
    IsClosed reading c.doc := by
  cases c with
  | line text =>
    rw [Comment.doc]
    split
    · exact isClosed_lineComment (by simp)
    · apply isClosed_flatMap
      intro line hline
      apply isClosed_lineComment
      intro c hc
      obtain ⟨hmem, hfeed⟩ := Text.mem_of_mem_lines hline hc
      rw [Scan.isLineEnd, Bool.or_eq_false_iff, beq_eq_false_iff_ne, beq_eq_false_iff_ne]
      refine ⟨hfeed, ?_⟩
      rintro rfl
      exact h hmem
  | block text =>
    intro brackets
    have hopening : Scan.run reading.strict ⟨.code, brackets⟩ "/*".toList
        = some ⟨.blockComment, brackets⟩ := rfl
    exact leads_delimited hopening (.inl rfl) (Text.lines text)
  | javadoc entries =>
    intro brackets
    have hopening : Scan.run reading.strict ⟨.code, brackets⟩ "/**".toList
        = some ⟨.star, brackets⟩ := rfl
    exact leads_delimited hopening (.inr rfl) entries

end Doc

end JavaSyntax
