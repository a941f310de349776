import JavaSyntax.Layout.Doc
import JavaSyntax.Proofs.Source.Scanner

/-!
# Scanning documents

Where a document leads a scanner must not depend on the level at which it is laid out. A closed
document leads from code to code and leaves the open brackets as they were; this is kept when closed
documents are put together.
-/

set_option autoImplicit false

namespace JavaSyntax

/-- How documents are laid out, and by which scanner they are read. -/
structure Reading where
  strict : Bool
  width : Nat
  nameOf : Reference → String
  isPlain_nameOf : ∀ r, Scan.IsPlain (nameOf r)

namespace Doc

/-- Whether a document, at every level, leads a scanner from one point to another. -/
def Leads (reading : Reading) (d : Doc) (s s' : Scan) : Prop :=
  ∀ level, Scan.run reading.strict s (write reading.width level reading.nameOf d).toList = some s'

/-- Whether a document is code in which literals and comments end and brackets are matched. -/
def IsClosed (reading : Reading) (d : Doc) : Prop :=
  ∀ brackets, Leads reading d ⟨.code, brackets⟩ ⟨.code, brackets⟩

variable {reading : Reading}

section Leads

variable {s s' s'' : Scan}

theorem leads_nil (s : Scan) : Leads reading [] s s := fun _ => rfl

theorem Leads.append {c d : Doc} (hc : Leads reading c s s') (hd : Leads reading d s' s'') :
    Leads reading (c ++ d) s s'' := by
  intro level
  rw [write_append, String.toList_append]
  exact Scan.run_append_of_eq_some (hc level) (hd level)

theorem Leads.nest {d : Doc} (h : Leads reading d s s') : Leads reading (nest d) s s' := by
  intro level
  rw [write_nest]
  exact h (level + 1)

theorem leads_piece {p : Piece}
    (h : ∀ level,
      Scan.run reading.strict s (p.write reading.width level reading.nameOf).toList = some s') :
    Leads reading [p] s s' := by
  intro level
  have hwrite : write reading.width level reading.nameOf [p]
      = p.write reading.width level reading.nameOf := by
    simp [write]
  rw [hwrite]
  exact h level

theorem leads_text {text : String} (h : Scan.run reading.strict s text.toList = some s') :
    Leads reading (ofText text) s s' :=
  leads_piece fun _ => h

/-- Indentation leads nowhere where a space does. -/
theorem leads_margin (h : Scan.step reading.strict s ' ' = some s) (depth : Nat) :
    Leads reading [.margin depth] s s := by
  apply leads_piece
  intro level
  rw [Piece.write, String.toList_ofList]
  apply Scan.run_of_forall_step
  intro c hc
  rw [List.eq_of_mem_replicate hc]
  exact h

theorem leads_newline (h : Scan.step reading.strict s '\n' = some s') :
    Leads reading [.newline] s s' := by
  apply leads_piece
  intro level
  have hchars : "\n".toList = ['\n'] := by decide
  rw [Piece.write, hchars]
  exact Scan.run_cons h []

theorem leads_line {d : Doc} (hmargin : Scan.step reading.strict s ' ' = some s)
    (hd : Leads reading d s s') (hend : Scan.step reading.strict s' '\n' = some s'') :
    Leads reading (line d) s s'' :=
  ((leads_margin hmargin 0).append hd).append (leads_newline hend)

/-- A line of code, which may open and close brackets. -/
theorem Leads.line {d : Doc} {before after : List Bracket}
    (h : Leads reading d ⟨.code, before⟩ ⟨.code, after⟩) :
    Leads reading (line d) ⟨.code, before⟩ ⟨.code, after⟩ :=
  leads_line rfl h rfl

end Leads

/-! ## Closed documents -/

section IsClosed

variable {c d : Doc}

theorem isClosed_nil : IsClosed reading [] := fun _ => leads_nil _

theorem IsClosed.append (hc : IsClosed reading c) (hd : IsClosed reading d) :
    IsClosed reading (c ++ d) :=
  fun brackets => (hc brackets).append (hd brackets)

theorem IsClosed.nest (h : IsClosed reading d) : IsClosed reading (nest d) :=
  fun brackets => (h brackets).nest

theorem IsClosed.line (h : IsClosed reading d) : IsClosed reading (line d) :=
  fun brackets => (h brackets).line

theorem isClosed_text {text : String} (h : Scan.IsPlain text) : IsClosed reading (ofText text) :=
  fun _ => leads_text (Scan.run_code h)

theorem isClosed_name (r : Reference) : IsClosed reading [.name r] :=
  fun _ => leads_piece fun _ => Scan.run_code (reading.isPlain_nameOf r)

theorem isClosed_newline : IsClosed reading [.newline] := fun _ => leads_newline rfl

theorem IsClosed.parens (h : IsClosed reading d) : IsClosed reading (parens d) := by
  intro brackets
  have hopen : Leads reading (ofText "(") ⟨.code, brackets⟩ ⟨.code, .round :: brackets⟩ :=
    leads_text rfl
  have hclose : Leads reading (ofText ")") ⟨.code, .round :: brackets⟩ ⟨.code, brackets⟩ :=
    leads_text rfl
  exact (hopen.append (h _)).append hclose

/-- A heading line whose last text opens the body. -/
theorem IsClosed.opening (h : IsClosed reading d) {text : String} {brackets : List Bracket}
    (htext : Scan.run reading.strict ⟨.code, brackets⟩ text.toList
      = some ⟨.code, .curly :: brackets⟩) :
    Leads reading (Doc.line (d ++ ofText text)) ⟨.code, brackets⟩ ⟨.code, .curly :: brackets⟩ :=
  Leads.line ((h brackets).append (leads_text htext))

theorem leads_closing (brackets : List Bracket) :
    Leads reading (Doc.line (ofText "\x7d")) ⟨.code, .curly :: brackets⟩ ⟨.code, brackets⟩ :=
  Leads.line (leads_text rfl)

theorem isClosed_flatMap {α : Type} {xs : List α} {f : α → Doc}
    (h : ∀ x ∈ xs, IsClosed reading (f x)) : IsClosed reading (xs.flatMap f) :=
  flatMap_of isClosed_nil IsClosed.append h

end IsClosed

end Doc

end JavaSyntax
