import JavaSyntax.Literal.Basic
import JavaSyntax.Proofs.Source.Scanner
import Mathlib.Data.List.TakeWhile

/-!
# Scanning literals

What the check on literals accepts is either a numeral or keyword, which no scanner reacts to, or
a character between single quotes, which every scanner skips. A strict scanner skips it unless
the character is a line end.
-/

set_option autoImplicit false

namespace JavaSyntax

namespace Literal

/-! ## Numerals -/

/-- Whether a character may stand in a numeral: a digit, a sign, a point, or the letter of an
exponent or a type. -/
def isNumeral (c : Char) : Bool :=
  c.isDigit || ['+', '-', '.', 'e', 'E', 'L', 'l', 'F', 'f', 'D', 'd'].contains c

theorem isNumeral_of_isDigit {c : Char} (h : c.isDigit = true) : isNumeral c = true := by
  simp [isNumeral, h]

theorem isDigit_of_digits? {cs : List Char} {n : Nat} (h : digits? cs = some n) :
    ∀ c ∈ cs, c.isDigit = true := by
  unfold digits? at h
  split at h
  · simp at h
  · rename_i hdigits
    simp only [Bool.or_eq_true, Bool.not_eq_true', not_or, Bool.not_eq_false] at hdigits
    exact List.all_eq_true.1 hdigits.2

theorem isNumeral_of_digits? {cs : List Char} {n : Nat} (h : digits? cs = some n) :
    ∀ c ∈ cs, isNumeral c = true :=
  fun c hc => isNumeral_of_isDigit (isDigit_of_digits? h c hc)

theorem isNumeral_of_unsigned? {cs : List Char} {n : Nat} (h : unsigned? cs = some n) :
    ∀ c ∈ cs, isNumeral c = true := by
  unfold unsigned? at h
  split at h
  · exact List.forall_mem_cons.2 ⟨by decide, isNumeral_of_digits? h⟩
  · exact isNumeral_of_digits? h

theorem isNumeral_of_signed? {cs : List Char} {n : Int} (h : signed? cs = some n) :
    ∀ c ∈ cs, isNumeral c = true := by
  unfold signed? at h
  split at h
  · obtain ⟨m, hm, -⟩ := Option.map_eq_some_iff.1 h
    obtain ⟨n, hn, -⟩ := Option.bind_eq_some_iff.1 hm
    exact List.forall_mem_cons.2 ⟨by decide, isNumeral_of_digits? hn⟩
  · obtain ⟨m, hm, -⟩ := Option.map_eq_some_iff.1 h
    exact isNumeral_of_unsigned? hm

theorem isNumeral_of_exponent? {cs : List Char} {n : Int} (h : exponent? cs = some n) :
    ∀ c ∈ cs, isNumeral c = true := by
  have hdigits : ∀ {ds : List Char}, (ds.isEmpty || !ds.all Char.isDigit) = false →
      ∀ c ∈ ds, isNumeral c = true := by
    intro ds hds c hc
    simp only [Bool.or_eq_false_iff, Bool.not_eq_false'] at hds
    exact isNumeral_of_isDigit (List.all_eq_true.1 hds.2 c hc)
  unfold exponent? at h
  split at h
  rename_i negative digits heq
  cases hbad : digits.isEmpty || !digits.all Char.isDigit with
  | true => simp [hbad] at h
  | false =>
    split at heq
    · cases heq
      exact List.forall_mem_cons.2 ⟨by decide, hdigits hbad⟩
    · cases heq
      exact List.forall_mem_cons.2 ⟨by decide, hdigits hbad⟩
    · cases heq
      exact hdigits hbad

theorem isNumeral_of_exponentPart? {cs : List Char} {n : Int} (h : exponentPart? cs = some n) :
    ∀ c ∈ cs, isNumeral c = true := by
  unfold exponentPart? at h
  split at h
  · simp
  · rename_i c rest
    split at h
    · rename_i hletter
      refine List.forall_mem_cons.2 ⟨?_, isNumeral_of_exponent? h⟩
      rcases hletter with rfl | rfl <;> decide
    · simp at h

theorem isNumeral_of_takeWhile {cs : List Char}
    (h : ∀ c ∈ cs.dropWhile Char.isDigit, isNumeral c = true) : ∀ c ∈ cs, isNumeral c = true := by
  intro c hc
  rw [← List.takeWhile_append_dropWhile (p := Char.isDigit) (l := cs), List.mem_append] at hc
  rcases hc with hc | hc
  · exact isNumeral_of_isDigit (List.mem_takeWhile_imp hc)
  · exact h c hc

theorem isNumeral_of_magnitude? {cs : List Char} {d : Decimal} (h : magnitude? cs = some d) :
    ∀ c ∈ cs, isNumeral c = true := by
  apply isNumeral_of_takeWhile
  unfold magnitude? at h
  generalize cs.dropWhile Char.isDigit = rest at h ⊢
  simp only at h
  split at h
  · rename_i mantissa exponent hmantissa hexponent
    split at hexponent
    · rename_i fraction
      refine List.forall_mem_cons.2 ⟨by decide, isNumeral_of_takeWhile ?_⟩
      exact isNumeral_of_exponentPart? hexponent
    · exact isNumeral_of_exponentPart? hexponent
  · simp at h

theorem isNumeral_of_decimal? {cs : List Char} {d : Decimal} (h : decimal? cs = some d) :
    ∀ c ∈ cs, isNumeral c = true := by
  unfold decimal? at h
  split at h
  · exact List.forall_mem_cons.2 ⟨by decide, isNumeral_of_magnitude? h⟩
  · exact List.forall_mem_cons.2 ⟨by decide, isNumeral_of_magnitude? h⟩
  · exact isNumeral_of_magnitude? h

/-- A type letter that is dropped from the end of a numeral is one of its characters. -/
theorem isNumeral_of_dropSuffix {suffixes cs : List Char}
    (hs : suffixes.all isNumeral = true)
    (h : ∀ c ∈ dropSuffix suffixes cs, isNumeral c = true) : ∀ c ∈ cs, isNumeral c = true := by
  unfold dropSuffix at h
  split at h
  · rename_i last hlast
    split at h
    · rename_i hmem
      obtain ⟨front, rfl⟩ := List.getLast?_eq_some_iff.1 hlast
      rw [List.dropLast_concat] at h
      intro c hc
      rcases List.mem_append.1 hc with hc | hc
      · exact h c hc
      · rw [List.mem_singleton.1 hc]
        exact List.all_eq_true.1 hs last hmem
    · exact h
  · exact h

theorem isNumeral_of_fitsSigned {bits : Nat} {cs : List Char} (h : fitsSigned bits cs = true) :
    ∀ c ∈ cs, isNumeral c = true := by
  obtain ⟨n, hn, -⟩ := fitsSigned_iff.1 h
  exact isNumeral_of_signed? hn

theorem isNumeral_of_fitsUnsigned {bits : Nat} {cs : List Char} (h : fitsUnsigned bits cs = true) :
    ∀ c ∈ cs, isNumeral c = true := by
  obtain ⟨n, hn, -⟩ := fitsUnsigned_iff.1 h
  exact isNumeral_of_unsigned? hn

theorem isNumeral_of_fitsBinary {precision greatest : Nat} {cs : List Char}
    (h : fitsBinary precision greatest cs = true) : ∀ c ∈ cs, isNumeral c = true := by
  obtain ⟨d, hd, -⟩ := (Option.any_eq_true _ _).1 h
  exact isNumeral_of_decimal? hd

/-! ## Characters between quotes -/

theorem isHexDigit_of_isOctalDigit {c : Char} (h : isOctalDigit c = true) :
    isHexDigit c = true := by
  have hdigit : c.isDigit = true := by
    simp only [isOctalDigit, Bool.and_eq_true, decide_eq_true_eq, Char.le_def,
      UInt32.le_iff_toNat_le] at h
    simp only [Char.isDigit, Bool.and_eq_true, decide_eq_true_eq, ge_iff_le,
      UInt32.le_iff_toNat_le]
    exact ⟨h.1, le_trans h.2 (by decide)⟩
  simp [isHexDigit, hdigit]

theorem not_isLineEnd_of_isHexDigit {c : Char} (h : isHexDigit c = true) :
    Scan.isLineEnd c = false := by
  rw [Scan.isLineEnd, Bool.or_eq_false_iff, beq_eq_false_iff_ne, beq_eq_false_iff_ne]
  constructor <;> rintro rfl <;> exact absurd h (by decide)

theorem isHexDigit_of_isOctalEscape {cs : List Char} (h : isOctalEscape cs = true) :
    ∀ c ∈ cs, isHexDigit c = true := by
  unfold isOctalEscape at h
  split at h
  · simp at h
  · rename_i first rest
    simp only [Bool.and_eq_true, List.all_eq_true] at h
    obtain ⟨⟨hfirst, hrest⟩, -⟩ := h
    exact List.forall_mem_cons.2
      ⟨isHexDigit_of_isOctalDigit hfirst, fun c hc => isHexDigit_of_isOctalDigit (hrest c hc)⟩

/-- An escape is a character on the same line as its backslash, and digits. -/
theorem exists_of_isEscape {cs : List Char} (h : isEscape cs = true) :
    ∃ first rest, cs = first :: rest ∧ Scan.isLineEnd first = false ∧
      ∀ c ∈ rest, isHexDigit c = true := by
  unfold isEscape at h
  split at h
  · rename_i letter
    refine ⟨letter, [], rfl, ?_, by simp⟩
    rcases Bool.or_eq_true_iff.1 h with hletter | hoctal
    · have hall : escapeLetters.all (!Scan.isLineEnd ·) = true := by decide
      simpa using List.all_eq_true.1 hall letter (List.contains_iff_mem.1 hletter)
    · exact not_isLineEnd_of_isHexDigit (isHexDigit_of_isOctalDigit hoctal)
  · rename_i digits _
    refine ⟨'u', digits, rfl, by decide, ?_⟩
    rw [Bool.and_eq_true, List.all_eq_true] at h
    exact h.2
  · have hhex := isHexDigit_of_isOctalEscape h
    cases cs with
    | nil => simp [isOctalEscape] at h
    | cons first rest =>
      obtain ⟨hfirst, hrest⟩ := List.forall_mem_cons.1 hhex
      exact ⟨first, rest, rfl, not_isLineEnd_of_isHexDigit hfirst, hrest⟩

theorem exists_body_of_isCharacter {cs : List Char} (h : isCharacter cs = true) :
    ∃ body, cs = '\'' :: body ++ ['\''] ∧ isCharacterBody body = true := by
  unfold isCharacter at h
  split at h
  · rename_i rest
    rw [Bool.and_eq_true, beq_iff_eq] at h
    obtain ⟨body, rfl⟩ := List.getLast?_eq_some_iff.1 h.1
    refine ⟨body, rfl, ?_⟩
    simpa using h.2
  · simp at h

end Literal

namespace Scan

variable {strict : Bool} {brackets : List Bracket}

theorem run_isCharacterBody {body : List Char} (h : Literal.isCharacterBody body = true)
    (hline : strict = true → ∀ c ∈ body, isLineEnd c = false) :
    run strict ⟨.literal '\'', brackets⟩ body = some ⟨.literal '\'', brackets⟩ := by
  unfold Literal.isCharacterBody at h
  split at h
  · rename_i escape
    obtain ⟨first, rest, rfl, hfirst, hrest⟩ := Literal.exists_of_isEscape h
    rw [run_cons (step_backslash strict brackets (by decide)), run_cons (step_escape hfirst)]
    apply run_of_forall_step
    intro c hc
    have hdigit := hrest c hc
    apply step_literal
    · rintro rfl
      exact absurd hdigit (by decide)
    · rintro rfl
      exact absurd hdigit (by decide)
    · exact fun _ => Literal.not_isLineEnd_of_isHexDigit hdigit
  · rename_i c hbackslash
    have hquote : c ≠ '\'' := by simpa using h
    have hend : strict = true → isLineEnd c = false := fun hs => hline hs c List.mem_cons_self
    rw [run_cons (step_literal hquote hbackslash hend)]
    rfl
  · simp at h

theorem run_isCharacter {cs : List Char} (h : Literal.isCharacter cs = true)
    (hline : strict = true → ∀ c ∈ cs, isLineEnd c = false) :
    run strict ⟨.code, brackets⟩ cs = some ⟨.code, brackets⟩ := by
  obtain ⟨body, rfl, hbody⟩ := Literal.exists_body_of_isCharacter h
  have hopen : step strict ⟨.code, brackets⟩ '\'' = some ⟨.literal '\'', brackets⟩ := rfl
  have hclose : run strict ⟨.literal '\'', brackets⟩ ['\''] = some ⟨.code, brackets⟩ := by
    cases strict <;> rfl
  rw [List.cons_append, run_cons hopen]
  refine run_append_of_eq_some (run_isCharacterBody hbody fun hs c hc => hline hs c ?_) hclose
  simp [hc]

theorem run_isNumeral {cs : List Char} (h : ∀ c ∈ cs, Literal.isNumeral c = true) :
    run strict ⟨.code, brackets⟩ cs = some ⟨.code, brackets⟩ :=
  run_code fun c hc => not_special_of (by decide) (h c hc)

/-- Every literal is skipped whole. -/
theorem run_literal (l : Literal)
    (hline : strict = true → ∀ c ∈ l.text.toList, isLineEnd c = false) :
    run strict ⟨.code, brackets⟩ l.text.toList = some ⟨.code, brackets⟩ := by
  obtain ⟨type, text, valid⟩ := l
  cases type with
  | boolean =>
    simp only [Primitive.isLiteral, Bool.or_eq_true, beq_iff_eq] at valid
    have htrue : IsPlain "true" := by decide
    have hfalse : IsPlain "false" := by decide
    rcases valid with rfl | rfl
    · exact run_code htrue
    · exact run_code hfalse
  | char =>
    rcases Bool.or_eq_true_iff.1 valid with hquoted | hnumber
    · exact run_isCharacter hquoted hline
    · exact run_isNumeral (Literal.isNumeral_of_fitsUnsigned hnumber)
  | byte => exact run_isNumeral (Literal.isNumeral_of_fitsSigned valid)
  | short => exact run_isNumeral (Literal.isNumeral_of_fitsSigned valid)
  | int => exact run_isNumeral (Literal.isNumeral_of_fitsSigned valid)
  | long =>
    exact run_isNumeral
      (Literal.isNumeral_of_dropSuffix (by decide) (Literal.isNumeral_of_fitsSigned valid))
  | float =>
    exact run_isNumeral
      (Literal.isNumeral_of_dropSuffix (by decide) (Literal.isNumeral_of_fitsBinary valid))
  | double =>
    exact run_isNumeral
      (Literal.isNumeral_of_dropSuffix (by decide) (Literal.isNumeral_of_fitsBinary valid))

end Scan

end JavaSyntax
