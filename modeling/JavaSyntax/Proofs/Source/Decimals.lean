import JavaSyntax.Proofs.Source.Integers

/-!
# Integers in decimal notation

An integer that is written out in decimal notation is read back as itself, by every type of numbers:
as an integer of a width, or as a fraction with nothing behind the point. So whether it is a literal
depends on the range of the type alone.
-/

set_option autoImplicit false

namespace JavaSyntax.Literal

/-! ## Reading digits back -/

theorem digits?_repr (n : Nat) : digits? n.repr.toList = some n := by
  rw [Nat.toList_repr, digits?_eq_some_iff]
  refine ⟨Nat.toDigits_ne_nil, fun c => Nat.isDigit_of_mem_toDigits (by decide) (by decide), ?_⟩
  exact Nat.ofDigitChars_eq_foldl.symm.trans Nat.ofDigitChars_ten_toDigits

/-- Digits have no sign in front of them. -/
theorem splitSign_of_isDigit {cs : List Char} (h : ∀ c ∈ cs, c.isDigit = true) :
    splitSign cs = (false, cs) := by
  unfold splitSign
  split
  · exact absurd (List.forall_mem_cons.1 h).1 (by decide)
  · exact absurd (List.forall_mem_cons.1 h).1 (by decide)
  · rfl

/-- An integer is written with a minus sign if it is negative, and the digits of its magnitude. -/
theorem splitSign_toString (n : Int) :
    splitSign (toString n).toList = (decide (n < 0), n.natAbs.repr.toList) := by
  cases n with
  | ofNat m => exact splitSign_of_isDigit (isDigit_of_digits? (digits?_repr m))
  | negSucc m =>
    have htext : (toString (Int.negSucc m)).toList = '-' :: (m + 1).repr.toList := by
      rw [Int.toString_eq_repr, Int.repr, String.toList_append]
      rfl
    rw [htext, decide_eq_true (Int.negSucc_lt_zero m)]
    rfl

theorem withSign_natAbs (n : Int) : withSign (decide (n < 0)) n.natAbs = n := by
  unfold withSign
  split
  · next h => rw [Int.ofNat_natAbs_of_nonpos (Int.le_of_lt (of_decide_eq_true h)), Int.neg_neg]
  · next h => exact Int.natAbs_of_nonneg (Int.not_lt.1 fun hlt => h (decide_eq_true hlt))

theorem signed?_toString (n : Int) : signed? (toString n).toList = some n := by
  rw [signed?_eq, splitSign_toString, digits?_repr, Option.map_some, withSign_natAbs]

/-! ## Fractions -/

/-- A fraction may have the same signs as an integer. -/
theorem decimal?_eq (cs : List Char) : decimal? cs = magnitude? (splitSign cs).2 := by
  unfold splitSign
  split
  · rfl
  · rfl
  · next hminus hplus =>
    unfold decimal?
    split
    · exact absurd rfl (hplus _)
    · exact absurd rfl (hminus _)
    · rfl

/-- Digits alone have nothing behind the point. -/
theorem magnitude?_of_digits? {cs : List Char} {n : Nat} (h : digits? cs = some n) :
    magnitude? cs = some ⟨n, 0⟩ := by
  have hdigits := isDigit_of_digits? h
  have htake : cs.takeWhile Char.isDigit = cs := List.takeWhile_eq_self_iff.2 hdigits
  have hdrop : cs.dropWhile Char.isDigit = [] := List.dropWhile_eq_nil_iff.2 hdigits
  simp only [magnitude?, htake, hdrop, List.append_nil, h, exponentPart?]
  rfl

theorem decimal?_toString (n : Int) : decimal? (toString n).toList = some ⟨n.natAbs, 0⟩ := by
  rw [decimal?_eq, splitSign_toString]
  exact magnitude?_of_digits? (digits?_repr n.natAbs)

/-- An integer is in the range of a format if its magnitude does not round to infinity. -/
theorem fitsBinary_toString {precision greatest : Nat} {n : Int}
    (h : n.natAbs < overflow precision greatest) :
    fitsBinary precision greatest (toString n).toList = true := by
  have hscaled : n.natAbs * Nat.pow 10 0 < overflow precision greatest :=
    (Nat.mul_one n.natAbs).symm ▸ h
  rw [fitsBinary, decimal?_toString, Option.any_some]
  exact decide_eq_true hscaled

/-! ## Literals -/

theorem dropSuffix_of_not_mem {suffixes cs : List Char} (h : ∀ c ∈ cs, c ∉ suffixes) :
    dropSuffix suffixes cs = cs := by
  unfold dropSuffix
  split
  · next c hlast => rw [if_neg (h c (List.mem_of_getLast? hlast))]
  · rfl

/-- No letter stands behind an integer. -/
theorem dropSuffix_toString {suffixes : List Char} (n : Int)
    (h : ∀ letter ∈ suffixes, letter.isDigit = false ∧ letter ∉ ['-', '+']) :
    dropSuffix suffixes (toString n).toList = (toString n).toList := by
  refine dropSuffix_of_not_mem fun c hc hletter => ?_
  obtain ⟨hdigit, hsign⟩ := h c hletter
  rcases isDigit_or_sign_of_signed? (signed?_toString n) c hc with h | h
  · simp [hdigit] at h
  · exact hsign h

theorem decimalValue?_toString (p : Primitive) (n : Int) :
    decimalValue? p (toString n).toList = some n := by
  unfold decimalValue?
  split
  · rw [dropSuffix_toString n (by simp), signed?_toString]
  · exact signed?_toString n

/-- An integer is a literal of an integral type if a word of the type holds it. -/
theorem isLiteral_toString_iff {p : Primitive} {bits : Nat} (h : (p, bits) ∈ integralWidths)
    (n : Int) : p.isLiteral (toString n) = true ↔ IsWord bits n := by
  rw [isLiteral_iff_of_mem_integralWidths h, decimalValue?_toString]
  simp

/-- An integer that is no greater than any `int` is a literal of both types of fractions. -/
theorem isLiteral_toString_of_isWord {p : Primitive} (h : p = .float ∨ p = .double) {n : Int}
    (hn : IsWord 32 n) : p.isLiteral (toString n) = true := by
  have hle : n.natAbs ≤ halfRange 32 := by
    simp only [IsWord, Int.ofNat_eq_natCast] at hn
    omega
  rcases h with rfl | rfl
  · rw [Primitive.isLiteral, dropSuffix_toString n (by simp)]
    exact fitsBinary_toString (Nat.lt_of_le_of_lt hle (by decide +kernel))
  · rw [Primitive.isLiteral, dropSuffix_toString n (by simp)]
    exact fitsBinary_toString (Nat.lt_of_le_of_lt hle (by decide +kernel))

end JavaSyntax.Literal
