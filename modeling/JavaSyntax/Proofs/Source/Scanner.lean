import JavaSyntax.Text.Quoted

/-!
# Scanning source text

A scanner reads source text character by character. It skips the inside of string and character
literals up to the closing quote, of `//` comments up to the end of the line, and of block
comments up to the first end of a comment, and it matches the round and curly brackets of what
remains. Characters are read as they stand. A strict scanner also refuses a line end inside a
literal; any other takes a literal as far as its quotes reach.
-/

set_option autoImplicit false

namespace JavaSyntax

/-- The kinds of brackets that a scanner matches. -/
inductive Bracket where
  | round
  | curly
  deriving DecidableEq, Repr

/-- What a scanner is reading. -/
inductive ScanMode where
  | code
  /-- Code, right behind a slash. -/
  | slash
  /-- A literal that this quote closes. -/
  | literal (quote : Char)
  /-- Such a literal, right behind a backslash. -/
  | escape (quote : Char)
  | lineComment
  | blockComment
  /-- A block comment, right behind a star. -/
  | star
  deriving DecidableEq, Repr

/-- How far a scanner has come: what it is reading, and which brackets are open, the innermost
first. -/
structure Scan where
  mode : ScanMode
  brackets : List Bracket
  deriving DecidableEq, Repr

namespace Scan

/-- Whether a character ends a line. -/
def isLineEnd (c : Char) : Bool := c == '\n' || c == '\r'

/-- A closing bracket, which must belong to the innermost open one. -/
def close (bracket : Bracket) : List Bracket → Option Scan
  | [] => none
  | innermost :: outer => if innermost = bracket then some ⟨.code, outer⟩ else none

/-- One character of code. -/
def readCode (brackets : List Bracket) : Char → Option Scan
  | '"' => some ⟨.literal '"', brackets⟩
  | '\'' => some ⟨.literal '\'', brackets⟩
  | '/' => some ⟨.slash, brackets⟩
  | '(' => some ⟨.code, .round :: brackets⟩
  | ')' => close .round brackets
  | '\x7b' => some ⟨.code, .curly :: brackets⟩
  | '\x7d' => close .curly brackets
  | _ => some ⟨.code, brackets⟩

/-- One character behind a slash in code. -/
def readSlash (brackets : List Bracket) : Char → Option Scan
  | '/' => some ⟨.lineComment, brackets⟩
  | '*' => some ⟨.blockComment, brackets⟩
  | c => readCode brackets c

/-- One character of a literal. -/
def readLiteral (quote : Char) (brackets : List Bracket) (c : Char) : Scan :=
  if c = quote then ⟨.code, brackets⟩
  else if c = '\\' then ⟨.escape quote, brackets⟩
  else ⟨.literal quote, brackets⟩

/-- One character of a block comment. -/
def readComment (afterStar : Bool) (brackets : List Bracket) (c : Char) : Scan :=
  if c = '*' then ⟨.star, brackets⟩
  else if afterStar ∧ c = '/' then ⟨.code, brackets⟩
  else ⟨.blockComment, brackets⟩

/-- One character of source text. -/
def step (strict : Bool) (s : Scan) (c : Char) : Option Scan :=
  match s.mode with
  | .code => readCode s.brackets c
  | .slash => readSlash s.brackets c
  | .literal quote => if strict && isLineEnd c then none else some (readLiteral quote s.brackets c)
  | .escape quote => if strict && isLineEnd c then none else some ⟨.literal quote, s.brackets⟩
  | .lineComment => some ⟨if isLineEnd c then .code else .lineComment, s.brackets⟩
  | .blockComment => some (readComment false s.brackets c)
  | .star => some (readComment true s.brackets c)

/-- Source text, from where the scanner has come. -/
def run (strict : Bool) (s : Scan) (cs : List Char) : Option Scan := cs.foldlM (step strict) s

/-- The beginning of a source text. -/
def start : Scan := ⟨.code, []⟩

theorem run_cons {strict : Bool} {s s' : Scan} {c : Char} (h : step strict s c = some s')
    (cs : List Char) : run strict s (c :: cs) = run strict s' cs := by
  change (step strict s c).bind (fun s' => run strict s' cs) = _
  rw [h]
  rfl

theorem run_append (strict : Bool) (s : Scan) (cs ds : List Char) :
    run strict s (cs ++ ds) = (run strict s cs).bind fun s' => run strict s' ds :=
  List.foldlM_append

/-- What is read piece by piece is read as a whole. -/
theorem run_append_of_eq_some {strict : Bool} {s s' s'' : Scan} {cs ds : List Char}
    (hc : run strict s cs = some s') (hd : run strict s' ds = some s'') :
    run strict s (cs ++ ds) = some s'' := by
  rw [run_append, hc]
  exact hd

/-- Text whose characters all keep the scanner where it is. -/
theorem run_of_forall_step {strict : Bool} {s : Scan} {cs : List Char}
    (h : ∀ c ∈ cs, step strict s c = some s) : run strict s cs = some s := by
  induction cs with
  | nil => rfl
  | cons c cs ih =>
    rw [run_cons (h c List.mem_cons_self)]
    exact ih fun d hd => h d (List.mem_cons_of_mem _ hd)

/-! ## Plain code -/

/-- The characters of code that a scanner reacts to. -/
def special : List Char := ['"', '\'', '/', '(', ')', '\x7b', '\x7d']

theorem readCode_of_not_special {brackets : List Bracket} {c : Char} (h : c ∉ special) :
    readCode brackets c = some ⟨.code, brackets⟩ := by
  simp only [special, List.mem_cons, List.not_mem_nil, or_false, not_or] at h
  unfold readCode
  split <;> simp_all

theorem run_code {strict : Bool} {brackets : List Bracket} {cs : List Char}
    (h : ∀ c ∈ cs, c ∉ special) :
    run strict ⟨.code, brackets⟩ cs = some ⟨.code, brackets⟩ :=
  run_of_forall_step fun c hc => readCode_of_not_special (h c hc)

/-- A class of characters without special ones has only members that are not special. -/
theorem not_special_of {p : Char → Bool} (hp : special.any p = false) {c : Char}
    (h : p c = true) : c ∉ special := by
  intro hc
  have hany : special.any p = true := List.any_eq_true.2 ⟨c, hc, h⟩
  rw [hp] at hany
  exact Bool.false_ne_true hany

/-- Whether no scanner reacts to a text that stands in code. -/
def IsPlain (text : String) : Prop := ∀ c ∈ text.toList, c ∉ special

-- The Boolean test keeps `decide` on the characters of the text, away from all that there are.
instance : DecidablePred IsPlain := fun text =>
  decidable_of_iff (text.toList.all (!special.contains ·) = true) (by simp [IsPlain])

/-! ## Quoted text -/

theorem step_literal {strict : Bool} {quote : Char} {brackets : List Bracket} {c : Char}
    (hquote : c ≠ quote) (hescape : c ≠ '\\') (hline : strict = true → isLineEnd c = false) :
    step strict ⟨.literal quote, brackets⟩ c = some ⟨.literal quote, brackets⟩ := by
  have hrefuse : (strict && isLineEnd c) = false := by
    cases strict with
    | false => rfl
    | true => exact hline rfl
  simp [step, hrefuse, readLiteral, hquote, hescape]

theorem step_backslash (strict : Bool) {quote : Char} (brackets : List Bracket)
    (h : quote ≠ '\\') :
    step strict ⟨.literal quote, brackets⟩ '\\' = some ⟨.escape quote, brackets⟩ := by
  simp [step, readLiteral, isLineEnd, Ne.symm h]

theorem step_escape {strict : Bool} {quote : Char} {brackets : List Bracket} {c : Char}
    (hline : isLineEnd c = false) :
    step strict ⟨.escape quote, brackets⟩ c = some ⟨.literal quote, brackets⟩ := by
  simp [step, hline]

/-- One encoded character leaves the scanner in its literal. -/
theorem run_encodeChar (strict : Bool) (brackets : List Bracket) (c : Char) :
    run strict ⟨.literal '"', brackets⟩ (Text.Quoted.encodeChar c)
      = some ⟨.literal '"', brackets⟩ := by
  unfold Text.Quoted.encodeChar
  split
  · rename_i letter hletter
    have hline : isLineEnd letter = false := by
      rw [isLineEnd, Bool.or_eq_false_iff, beq_eq_false_iff_ne, beq_eq_false_iff_ne]
      constructor <;>
      · rintro rfl
        cases Text.Quoted.unescape?_of_escape? hletter
    rw [run_cons (step_backslash strict brackets (by decide)), run_cons (step_escape hline)]
    rfl
  · rename_i hnone
    obtain ⟨hbackslash, hquote, hfeed, hreturn, -⟩ := Text.Quoted.escape?_eq_none_iff.1 hnone
    have hline : isLineEnd c = false := by
      simp only [isLineEnd, Bool.or_eq_false_iff, beq_eq_false_iff_ne]
      exact ⟨hfeed, hreturn⟩
    rw [run_cons (step_literal hquote hbackslash fun _ => hline)]
    rfl

theorem run_encode (strict : Bool) (brackets : List Bracket) (cs : List Char) :
    run strict ⟨.literal '"', brackets⟩ (Text.Quoted.encode cs)
      = some ⟨.literal '"', brackets⟩ := by
  induction cs with
  | nil => rfl
  | cons c cs ih =>
    rw [Text.Quoted.encode_cons]
    exact run_append_of_eq_some (run_encodeChar strict brackets c) ih

/-- Quoted text is skipped whole, whatever it says. -/
theorem run_quoted (strict : Bool) (brackets : List Bracket) (text : String) :
    run strict ⟨.code, brackets⟩ (Text.quoted text).toList = some ⟨.code, brackets⟩ := by
  have hopen : step strict ⟨.code, brackets⟩ '"' = some ⟨.literal '"', brackets⟩ := rfl
  have hclose : run strict ⟨.literal '"', brackets⟩ ['"'] = some ⟨.code, brackets⟩ := by
    cases strict <;> rfl
  rw [Text.quoted, String.toList_ofList, List.cons_append, run_cons hopen]
  exact run_append_of_eq_some (run_encode strict brackets text.toList) hclose

end Scan

end JavaSyntax
