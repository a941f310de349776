import JavaSyntax.Proofs.Source.Literals
import Mathlib.Data.List.Induction

/-!
# Integers in source text

An integral literal is accepted for its decimal value, and stands in source text as it was given.
Source text has rules of its own for such a literal. Digits behind a leading zero are octal, and
without the letter of a `long` the literal denotes an `int`, whatever type it is wanted as. So an
accepted literal may be illegal there or denote another number. It denotes its decimal value exactly
if a leading zero is followed by no more than one digit that counts, and if a `long` without its
letter is in the range of an `int`.
-/

set_option autoImplicit false

namespace JavaSyntax.Literal

/-! ## Digits in a base -/

/-- The number that digits denote in a base, the most significant first. -/
def numberIn (base : Nat) (digits : List Char) : Nat :=
  digits.foldl (fun n c => base * n + (c.toNat - '0'.toNat)) 0

theorem numberIn_concat (base : Nat) (digits : List Char) (c : Char) :
    numberIn base (digits ++ [c]) = base * numberIn base digits + (c.toNat - '0'.toNat) := by
  simp [numberIn]

/-- A zero in front counts for nothing. -/
theorem numberIn_zero_cons (base : Nat) (digits : List Char) :
    numberIn base ('0' :: digits) = numberIn base digits := rfl

theorem digits?_eq_some_iff {cs : List Char} {n : Nat} :
    digits? cs = some n ↔ cs ≠ [] ∧ (∀ c ∈ cs, c.isDigit = true) ∧ numberIn 10 cs = n := by
  unfold digits?
  split
  · next h =>
    simp only [reduceCtorEq, false_iff, not_and]
    intro hne hall
    simp [hne, List.all_eq_true.2 hall] at h
  · next h =>
    simp only [Bool.or_eq_true, List.isEmpty_iff, Bool.not_eq_true', not_or,
      Bool.not_eq_false, List.all_eq_true] at h
    simp only [Option.some_inj]
    exact ⟨fun hn => ⟨h.1, h.2, hn⟩, fun hn => hn.2.2⟩

theorem isOctalDigit_iff {c : Char} :
    isOctalDigit c = true ↔ c.isDigit = true ∧ c.toNat - '0'.toNat < 8 := by
  simp only [isOctalDigit, Char.isDigit, Bool.and_eq_true, decide_eq_true_eq, Char.le_def,
    UInt32.le_iff_toNat_le, ge_iff_le]
  change 48 ≤ c.toNat ∧ c.toNat ≤ 55 ↔ (48 ≤ c.toNat ∧ c.toNat ≤ 57) ∧ c.toNat - 48 < 8
  omega

/-- Digits denote no more in base eight than in base ten. -/
theorem numberIn_eight_le (digits : List Char) : numberIn 8 digits ≤ numberIn 10 digits := by
  induction digits using List.reverseRecOn with
  | nil => exact Nat.le_refl 0
  | append_singleton digits c ih =>
    rw [numberIn_concat, numberIn_concat]
    omega

/-- The digits of a number below eight are octal. -/
theorem isOctalDigit_of_numberIn_lt {digits : List Char} (h : ∀ c ∈ digits, c.isDigit = true)
    (hlt : numberIn 10 digits < 8) : ∀ c ∈ digits, isOctalDigit c = true := by
  induction digits using List.reverseRecOn with
  | nil => simp
  | append_singleton digits c ih =>
    obtain ⟨hdigits, hc⟩ := List.forall_mem_append.1 h
    rw [numberIn_concat] at hlt
    refine List.forall_mem_append.2 ⟨ih hdigits (by omega), List.forall_mem_singleton.2 ?_⟩
    exact isOctalDigit_iff.2 ⟨hc c (List.mem_singleton_self c), by omega⟩

/-- Octal digits denote the same number in both bases only if it has one digit. -/
theorem numberIn_eight_eq_iff {digits : List Char} (h : ∀ c ∈ digits, isOctalDigit c = true) :
    numberIn 8 digits = numberIn 10 digits ↔ numberIn 10 digits < 8 := by
  rcases digits.eq_nil_or_concat with rfl | ⟨digits, c, rfl⟩
  · simp [numberIn]
  · have hle := numberIn_eight_le digits
    have hc := (isOctalDigit_iff.1 (h c (by simp))).2
    rw [List.concat_eq_append, numberIn_concat, numberIn_concat]
    omega

/-! ## Signs and letters -/

/-- Whether a literal has a minus sign, and what stands behind its sign. -/
def splitSign : List Char → Bool × List Char
  | '-' :: rest => (true, rest)
  | '+' :: rest => (false, rest)
  | cs => (false, cs)

/-- A number with a minus sign or without. -/
def withSign (isNegative : Bool) (n : Nat) : Int := if isNegative then -n else n

theorem natAbs_withSign (isNegative : Bool) (n : Nat) : (withSign isNegative n).natAbs = n := by
  cases isNegative <;> simp [withSign]

/-- The integer that a literal denotes in decimal is what its digits denote, with its sign. -/
theorem signed?_eq (cs : List Char) :
    signed? cs = (digits? (splitSign cs).2).map (withSign (splitSign cs).1) := by
  unfold splitSign
  split
  · next rest => cases h : digits? rest <;> simp [signed?, withSign, h]
  · rfl
  · next hminus hplus =>
    have hsigned : signed? cs = (unsigned? cs).map Int.ofNat := by
      unfold signed?
      split
      · exact absurd rfl (hminus _)
      · rfl
    have hunsigned : unsigned? cs = digits? cs := by
      unfold unsigned?
      split
      · exact absurd rfl (hplus _)
      · rfl
    rw [hsigned, hunsigned]
    rfl

theorem isDigit_or_sign_of_signed? {cs : List Char} {n : Int} (h : signed? cs = some n) :
    ∀ c ∈ cs, c.isDigit = true ∨ c ∈ ['-', '+'] := by
  rw [signed?_eq] at h
  obtain ⟨m, hm, -⟩ := Option.map_eq_some_iff.1 h
  have hdigits := isDigit_of_digits? hm
  unfold splitSign at hdigits
  split at hdigits
  · exact List.forall_mem_cons.2 ⟨.inr (by decide), fun c hc => .inl (hdigits c hc)⟩
  · exact List.forall_mem_cons.2 ⟨.inr (by decide), fun c hc => .inl (hdigits c hc)⟩
  · exact fun c hc => .inl (hdigits c hc)

/-- Whether a literal ends in the letter of a `long`. -/
def hasLongLetter (cs : List Char) : Bool := cs.getLast? == some 'L' || cs.getLast? == some 'l'

/-- Only a literal with more than a sign and digits does. -/
theorem hasLongLetter_of_signed? {cs : List Char} {n : Int} (h : signed? cs = some n) :
    hasLongLetter cs = false := by
  have hlast : ∀ letter, cs.getLast? = some letter → letter.isDigit = true ∨ letter ∈ ['-', '+'] :=
    fun letter hlast => isDigit_or_sign_of_signed? h letter (List.mem_of_getLast? hlast)
  have hupper : cs.getLast? ≠ some 'L' := fun h => absurd (hlast 'L' h) (by decide)
  have hlower : cs.getLast? ≠ some 'l' := fun h => absurd (hlast 'l' h) (by decide)
  simp [hasLongLetter, hupper, hlower]

theorem dropSuffix_of_hasLongLetter {cs : List Char} (h : hasLongLetter cs = false) :
    dropSuffix ['L', 'l'] cs = cs := by
  unfold dropSuffix
  split
  · next c hlast =>
    simp only [hasLongLetter, hlast, Bool.or_eq_false_iff, beq_eq_false_iff_ne, ne_eq,
      Option.some_inj] at h
    rw [if_neg (by simp [h])]
  · rfl

/-! ## Words -/

/-- Whether a signed word of this many bits holds an integer. -/
def IsWord (bits : Nat) (n : Int) : Prop :=
  -Int.ofNat (halfRange bits) ≤ n ∧ n < Int.ofNat (halfRange bits)

instance (bits : Nat) (n : Int) : Decidable (IsWord bits n) :=
  inferInstanceAs (Decidable (_ ∧ _))

/-- The magnitude that digits denote in source text where they make up a word of this many bits.
Behind a leading zero they are octal, and such digits may give each of the bits. Other digits are
decimal, and there is one more number for them with a minus sign than without. -/
def wordMagnitude? (bits : Nat) (isNegative : Bool) : List Char → Option Nat
  | '0' :: c :: cs =>
    if (c :: cs).all isOctalDigit ∧ numberIn 8 (c :: cs) < Nat.pow 2 bits then
      some (numberIn 8 (c :: cs))
    else none
  | cs =>
    (digits? cs).filter fun n => n < halfRange bits ∨ isNegative = true ∧ n = halfRange bits

/-- The integer that digits behind a sign denote in source text, as a signed word of this many bits. -/
def word? (bits : Nat) (isNegative : Bool) (digits : List Char) : Option Int :=
  (wordMagnitude? bits isNegative digits).map fun n =>
    (withSign isNegative n).bmod (Nat.pow 2 bits)

theorem pow_two_eq {bits : Nat} (h : 0 < bits) : Nat.pow 2 bits = 2 * halfRange bits := by
  obtain ⟨k, rfl⟩ := Nat.exists_eq_succ_of_ne_zero h.ne'
  exact Nat.pow_succ'

theorem eight_le_halfRange {bits : Nat} (h : 4 ≤ bits) : 8 ≤ halfRange bits := by
  have hexponent : 3 ≤ bits - 1 := by omega
  exact Nat.pow_le_pow_right Nat.two_pos hexponent

theorem bmod_eq_self {bits : Nat} (hbits : 0 < bits) {n : Int} (h : IsWord bits n) :
    n.bmod (Nat.pow 2 bits) = n := by
  obtain ⟨hlow, hhigh⟩ := h
  rw [pow_two_eq hbits]
  simp only [Int.ofNat_eq_natCast] at hlow hhigh
  apply Int.bmod_eq_of_le_mul_two <;> omega

theorem isWord_bmod {bits : Nat} (hbits : 0 < bits) (n : Int) :
    IsWord bits (n.bmod (Nat.pow 2 bits)) := by
  have hpos : 0 < Nat.pow 2 bits := Nat.pow_pos (by decide)
  have hlow := Int.le_bmod (x := n) hpos
  have hhigh := Int.bmod_lt (x := n) hpos
  rw [pow_two_eq hbits] at hlow hhigh ⊢
  unfold IsWord
  simp only [Int.ofNat_eq_natCast]
  omega

theorem isWord_withSign_iff {bits n : Nat} {isNegative : Bool} :
    IsWord bits (withSign isNegative n) ↔
      n < halfRange bits ∨ isNegative = true ∧ n = halfRange bits := by
  have hpos : 0 < halfRange bits := Nat.pow_pos (by decide)
  unfold IsWord
  cases isNegative with
  | false =>
    simp only [withSign, Bool.false_eq_true, if_false, false_and, or_false, Int.ofNat_eq_natCast]
    omega
  | true =>
    simp only [withSign, if_true, true_and, Int.ofNat_eq_natCast]
    omega

/-- A magnitude fits if a greater one does. -/
theorem isWord_withSign_of_le {bits m n : Nat} {isNegative : Bool} (h : m ≤ n)
    (hn : IsWord bits (withSign isNegative n)) : IsWord bits (withSign isNegative m) := by
  rw [isWord_withSign_iff] at hn ⊢
  rcases hn with hlt | ⟨hminus, rfl⟩
  · exact .inl (h.trans_lt hlt)
  · exact h.lt_or_eq.imp_right fun heq => ⟨hminus, heq⟩

/-! ## What digits denote -/

section Word

variable {bits m : Nat} {isNegative : Bool} (hbits : 4 ≤ bits)
include hbits

/-- Octal digits make up the word of their decimal value if this has one digit that counts, and
otherwise of a smaller number, or of none. -/
theorem bmod_octal_eq_iff {digits : List Char} (h : ∀ c ∈ digits, isOctalDigit c = true)
    (hm : numberIn 10 digits = m) :
    (withSign isNegative (numberIn 8 digits)).bmod (Nat.pow 2 bits) = withSign isNegative m ↔
      m < 8 ∧ IsWord bits (withSign isNegative m) := by
  have hle : numberIn 8 digits ≤ m := hm ▸ numberIn_eight_le digits
  constructor
  · intro hvalue
    have hrange : IsWord bits (withSign isNegative m) := hvalue ▸ isWord_bmod (by omega) _
    rw [bmod_eq_self (by omega) (isWord_withSign_of_le hle hrange)] at hvalue
    have heq : numberIn 8 digits = m := by
      rw [← natAbs_withSign isNegative m, ← hvalue, natAbs_withSign]
    exact ⟨hm ▸ (numberIn_eight_eq_iff h).1 (heq.trans hm.symm), hrange⟩
  · rintro ⟨hlt, hrange⟩
    have heq : numberIn 8 digits = m := ((numberIn_eight_eq_iff h).2 (hm ▸ hlt)).trans hm
    rw [heq, bmod_eq_self (by omega) hrange]

/-- Behind a leading zero, only one digit may count. -/
theorem word?_octal_iff {c : Char} {cs : List Char} (h : digits? ('0' :: c :: cs) = some m) :
    word? bits isNegative ('0' :: c :: cs) = some (withSign isNegative m) ↔
      m < 8 ∧ IsWord bits (withSign isNegative m) := by
  obtain ⟨-, hdigits, hm⟩ := digits?_eq_some_iff.1 h
  rw [numberIn_zero_cons] at hm
  rw [word?, wordMagnitude?]
  split
  · next hoctal =>
    rw [Option.map_some, Option.some_inj]
    exact bmod_octal_eq_iff hbits (List.all_eq_true.1 hoctal.1) hm
  · next hillegal =>
    -- A number with one digit that counts is neither too great nor in need of other digits.
    refine iff_of_false (by simp) fun ⟨hlt, _⟩ => hillegal ⟨List.all_eq_true.2 ?_, ?_⟩
    · exact isOctalDigit_of_numberIn_lt (List.forall_mem_cons.1 hdigits).2 (hm ▸ hlt)
    · have hle := numberIn_eight_le (c :: cs)
      have hhalf := eight_le_halfRange hbits
      rw [pow_two_eq (by omega)]
      omega

theorem word?_decimal_iff {ds : List Char} (hzero : ∀ c cs, ds ≠ '0' :: c :: cs)
    (h : digits? ds = some m) :
    word? bits isNegative ds = some (withSign isNegative m) ↔
      IsWord bits (withSign isNegative m) := by
  rw [word?, wordMagnitude?, h, Option.filter_some, isWord_withSign_iff]
  · split
    · next hfits =>
      have hrange := of_decide_eq_true hfits
      rw [Option.map_some, bmod_eq_self (by omega) (isWord_withSign_iff.2 hrange)]
      exact iff_of_true rfl hrange
    · next hfits => exact iff_of_false (by simp) (mt decide_eq_true hfits)
  · exact hzero

/-- Digits denote their decimal value in source text if a word can have it, unless a zero stands
before more than one digit that counts. -/
theorem word?_eq_some_iff {ds : List Char} (h : digits? ds = some m) :
    word? bits isNegative ds = some (withSign isNegative m) ↔
      (ds.head? = some '0' → m < 8) ∧ IsWord bits (withSign isNegative m) := by
  by_cases hzero : ∃ c cs, ds = '0' :: c :: cs
  · obtain ⟨c, cs, rfl⟩ := hzero
    rw [word?_octal_iff hbits h]
    simp
  · rw [word?_decimal_iff hbits (fun c cs heq => hzero ⟨c, cs, heq⟩) h, iff_and_self]
    rintro - hhead
    obtain ⟨rest, rfl⟩ := List.head?_eq_some_iff.1 hhead
    cases rest with
    | nil =>
      obtain rfl : 0 = m := Option.some.inj h
      decide
    | cons c cs => exact absurd ⟨c, cs, rfl⟩ hzero

end Word

/-! ## Accepted integers -/

/-- The integer that a literal denotes in source text, if it is legal there. It takes the letter to
make it a `long`; any other literal is an `int`. -/
def inSource? (cs : List Char) : Option Int :=
  let (isNegative, digits) := splitSign (dropSuffix ['L', 'l'] cs)
  word? (if hasLongLetter cs then 64 else 32) isNegative digits

theorem inSource?_iff_of_signed? {cs : List Char} {n : Int}
    (h : signed? (dropSuffix ['L', 'l'] cs) = some n) :
    inSource? cs = some n ↔
      ((splitSign (dropSuffix ['L', 'l'] cs)).2.head? = some '0' → n.natAbs < 8) ∧
        IsWord (if hasLongLetter cs then 64 else 32) n := by
  have hbits : 4 ≤ if hasLongLetter cs = true then 64 else 32 := by split <;> decide
  rw [signed?_eq] at h
  obtain ⟨m, hm, rfl⟩ := Option.map_eq_some_iff.1 h
  rw [natAbs_withSign]
  exact word?_eq_some_iff hbits hm

/-- The integral types, and the widths of their words. -/
def integralWidths : List (Primitive × Nat) :=
  [(.byte, 8), (.short, 16), (.int, 32), (.long, 64)]

/-- The decimal value of a literal of an integral type, which is what is checked. -/
def decimalValue? (p : Primitive) (cs : List Char) : Option Int :=
  signed? (if p = .long then dropSuffix ['L', 'l'] cs else cs)

theorem isLiteral_iff_of_mem_integralWidths {p : Primitive} {bits : Nat}
    (h : (p, bits) ∈ integralWidths) {text : String} :
    p.isLiteral text = true ↔ ∃ n, decimalValue? p text.toList = some n ∧ IsWord bits n := by
  simp only [integralWidths, List.mem_cons, List.not_mem_nil, or_false, Prod.mk.injEq] at h
  rcases h with ⟨rfl, rfl⟩ | ⟨rfl, rfl⟩ | ⟨rfl, rfl⟩ | ⟨rfl, rfl⟩ <;> exact fitsSigned_iff

theorem IsWord.mono {few many : Nat} (h : few ≤ many) {n : Int} (hn : IsWord few n) :
    IsWord many n := by
  have hhalf : halfRange few ≤ halfRange many :=
    Nat.pow_le_pow_right Nat.two_pos (Nat.sub_le_sub_right h 1)
  unfold IsWord at *
  simp only [Int.ofNat_eq_natCast] at *
  omega

/-- Only a `long` may have a letter, and is checked without it. -/
theorem decimalValue?_eq_some {p : Primitive} {cs : List Char} {n : Int}
    (h : decimalValue? p cs = some n) :
    signed? (dropSuffix ['L', 'l'] cs) = some n ∧ (p ≠ .long → hasLongLetter cs = false) := by
  unfold decimalValue? at h
  split at h
  · next hp => exact ⟨h, fun hne => absurd hp hne⟩
  · have hletter := hasLongLetter_of_signed? h
    exact ⟨by rwa [dropSuffix_of_hasLongLetter hletter], fun _ => hletter⟩

theorem le_of_mem_integralWidths {p : Primitive} {bits : Nat} (h : (p, bits) ∈ integralWidths) :
    bits ≤ 64 ∧ (p ≠ .long → bits ≤ 32) := by
  have hall : ∀ pair ∈ integralWidths, pair.2 ≤ 64 ∧ (pair.1 ≠ .long → pair.2 ≤ 32) := by decide
  exact hall (p, bits) h

theorem eq_of_ofString_eq_ok {p : Primitive} {text : String} {l : Literal}
    (h : ofString (.ofPrimitive p) text = .ok l) : l.text = text ∧ p.isLiteral text = true := by
  simp only [ofString, JavaType.ofPrimitive] at h
  split at h
  · next hvalid =>
    cases h
    exact ⟨rfl, hvalid⟩
  · cases h

/-- A literal that is accepted for an integral type has a decimal value, which a word of the type
holds. This is also what it denotes in source text exactly if behind a leading zero no more than one
digit counts, and if a `long` without its letter has a value that an `int` could have. -/
theorem inSource?_eq_some_iff {p : Primitive} {bits : Nat} (hp : (p, bits) ∈ integralWidths)
    {text : String} {l : Literal} (h : ofString (.ofPrimitive p) text = .ok l) :
    ∃ n, decimalValue? p text.toList = some n ∧ IsWord bits n ∧
      (inSource? l.text.toList = some n ↔
        ((splitSign (dropSuffix ['L', 'l'] text.toList)).2.head? = some '0' → n.natAbs < 8) ∧
        (p = .long → hasLongLetter text.toList = false → IsWord 32 n)) := by
  obtain ⟨htext, hvalid⟩ := eq_of_ofString_eq_ok h
  obtain ⟨n, hn, hword⟩ := (isLiteral_iff_of_mem_integralWidths hp).1 hvalid
  obtain ⟨hsigned, hletter⟩ := decimalValue?_eq_some hn
  obtain ⟨hbits, hint⟩ := le_of_mem_integralWidths hp
  refine ⟨n, hn, hword, ?_⟩
  rw [htext, inSource?_iff_of_signed? hsigned, and_congr_right_iff]
  intro
  by_cases hlong : p = .long
  · cases hasLongLetter text.toList with
    | true => simp [hlong, hword.mono hbits]
    | false => simp [hlong]
  · simp [hlong, hletter hlong, hword.mono (hint hlong)]

/-- The least `int` may also be a `long` without its letter. -/
theorem inSource?_eq_some_least :
    ∃ l, ofString (.ofPrimitive .long) "-2147483648" = .ok l ∧
      inSource? l.text.toList = some (-2147483648) := by
  have hlong : ofString (.ofPrimitive .long) "-2147483648"
      = .ok ⟨.long, "-2147483648", by decide⟩ := rfl
  have hmem : (Primitive.long, 64) ∈ integralWidths := by decide
  obtain ⟨n, hn, -, hiff⟩ := inSource?_eq_some_iff hmem hlong
  obtain rfl : -2147483648 = n := Option.some.inj hn
  exact ⟨_, hlong, hiff.2 ⟨by decide, by decide⟩⟩

/-- Three accepted literals: the first is octal, the second would have to be, and the third is too
great for an `int`. -/
theorem inSource?_ne_decimalValue? :
    (∃ l, ofString (.ofPrimitive .long) "010" = .ok l ∧
      decimalValue? .long l.text.toList = some 10 ∧ inSource? l.text.toList = some 8) ∧
    (∃ l, ofString (.ofPrimitive .byte) "-08" = .ok l ∧
      decimalValue? .byte l.text.toList = some (-8) ∧ inSource? l.text.toList = none) ∧
    ∃ l, ofString (.ofPrimitive .long) "3000000000" = .ok l ∧
      decimalValue? .long l.text.toList = some 3000000000 ∧ inSource? l.text.toList = none :=
  ⟨⟨⟨.long, "010", by decide⟩, rfl, by decide, by decide⟩,
    ⟨⟨.byte, "-08", by decide⟩, rfl, by decide, by decide⟩,
    ⟨⟨.long, "3000000000", by decide⟩, rfl, by decide, by decide⟩⟩

end JavaSyntax.Literal
