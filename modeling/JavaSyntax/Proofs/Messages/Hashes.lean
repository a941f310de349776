import JavaSyntax.Text.Units
import Mathlib.Algebra.BigOperators.Fin
import Mathlib.Data.Int.ModEq
import Mathlib.Tactic.Ring

/-!
# Hash codes

The hash code of a text is computed in words of thirty-two bits that wrap around at every step. It
is the value at 31 of the polynomial whose coefficients are the code units of the text, modulo the
number of words: wrapping around commutes with sums and products. One lemma carries this, for a
computation that goes on from any word; from it also follows what the hash code of a text is that is
put together from two.
-/

set_option autoImplicit false

namespace JavaSyntax.Text

/-! ## Code units -/

/-- How a text is encoded in UTF-16. A character of the first plane is its own code unit. Any other
is twenty bits beyond that plane: a high surrogate has the upper ten of them, and a low surrogate
behind it the lower ten. -/
inductive Encodes : List Nat → List Char → Prop
  | nil : Encodes [] []
  | basic {us : List Nat} {cs : List Char} {c : Char} (plane : c.toNat < 0x10000)
      (rest : Encodes us cs) : Encodes (c.toNat :: us) (c :: cs)
  | pair {us : List Nat} {cs : List Char} {c : Char} {upper lower : Nat} (high : upper < 0x400)
      (low : lower < 0x400) (code : c.toNat = 0x10000 + (upper * 0x400 + lower))
      (rest : Encodes us cs) : Encodes ((0xD800 + upper) :: (0xDC00 + lower) :: us) (c :: cs)

theorem encodes_flatMap (cs : List Char) : Encodes (cs.flatMap unitsOfChar) cs := by
  induction cs with
  | nil => exact .nil
  | cons c cs ih =>
    rw [List.flatMap_cons, unitsOfChar]
    split
    · next hplane => exact .basic hplane ih
    · next hplane =>
      have hlast := toNat_lt c
      exact .pair (by omega) (by omega) (by omega) ih

theorem Encodes.eq_flatMap {us : List Nat} {cs : List Char} (h : Encodes us cs) :
    us = cs.flatMap unitsOfChar := by
  induction h with
  | nil => rfl
  | basic plane rest ih =>
    rw [List.flatMap_cons, ← ih, unitsOfChar, if_pos plane]
    rfl
  | pair high low code rest ih =>
    rw [List.flatMap_cons, ← ih, unitsOfChar, if_neg (by omega), code]
    simp only [List.cons_append, List.nil_append, List.cons.injEq, and_true]
    omega

/-- The code units of a text are its encoding in UTF-16, of which there is one. -/
theorem encodes_iff {us : List Nat} {text : String} :
    Encodes us text.toList ↔ us = units text :=
  ⟨Encodes.eq_flatMap, fun h => h ▸ encodes_flatMap text.toList⟩

/-! ## Wrapping around -/

theorem toInt_add_modEq (a b : Int32) : (a + b).toInt ≡ a.toInt + b.toInt [ZMOD 2 ^ 32] := by
  rw [Int32.toInt_add]
  exact Int.bmod_emod

theorem toInt_mul_modEq (a b : Int32) : (a * b).toInt ≡ a.toInt * b.toInt [ZMOD 2 ^ 32] := by
  rw [Int32.toInt_mul]
  exact Int.bmod_emod

theorem toInt_ofNat_modEq (n : Nat) : (Int32.ofNat n).toInt ≡ n [ZMOD 2 ^ 32] := by
  rw [Int32.toInt_ofNat']
  exact Int.bmod_emod

/-- The step for one code unit. -/
theorem toInt_step_modEq (code : Int32) (unit : Nat) :
    (code * 31 + Int32.ofNat unit).toInt ≡ code.toInt * 31 + unit [ZMOD 2 ^ 32] :=
  (toInt_add_modEq _ _).trans ((toInt_mul_modEq code 31).add (toInt_ofNat_modEq unit))

/-! ## The polynomial -/

/-- The polynomial with these coefficients, that of the highest power first, at 31. -/
def polynomial (us : List Nat) : Nat :=
  ∑ i : Fin us.length, us[i] * 31 ^ (us.length - 1 - i)

theorem polynomial_cons (u : Nat) (us : List Nat) :
    polynomial (u :: us) = u * 31 ^ us.length + polynomial us := by
  refine (Fin.sum_univ_succ _).trans (congrArg₂ (· + ·) rfl ?_)
  refine Finset.sum_congr rfl fun i _ => ?_
  have hpower : us.length - (i + 1) = us.length - 1 - i := by omega
  simp [hpower]

/-- A computation that goes on from a word lifts this word by one power for each code unit. -/
theorem toInt_foldl_modEq (us : List Nat) (code : Int32) :
    (us.foldl (fun code unit => code * 31 + Int32.ofNat unit) code).toInt ≡
      code.toInt * 31 ^ us.length + polynomial us [ZMOD 2 ^ 32] := by
  -- The computation starts anywhere, since it goes on from what the first unit has made of it.
  induction us generalizing code with
  | nil => simp [polynomial]
  | cons u us ih =>
    have hstep := (toInt_step_modEq code u).mul_right (31 ^ us.length)
    have hpowers : (code.toInt * 31 + u) * 31 ^ us.length + (polynomial us : Int) =
        code.toInt * 31 ^ (u :: us).length + polynomial (u :: us) := by
      rw [polynomial_cons, List.length_cons]
      push_cast
      ring
    exact hpowers ▸ (ih _).trans (hstep.add_right _)

theorem toInt_hash_modEq (text : String) :
    (hash text).toInt ≡ polynomial (units text) [ZMOD 2 ^ 32] := by
  have hzero : (0 : Int32).toInt * 31 ^ (units text).length + polynomial (units text) =
      polynomial (units text) := by simp
  exact hzero ▸ toInt_foldl_modEq (units text) 0

/-- The hash code of a text whose code units are `u₀, …, uₙ₋₁` is the signed word of thirty-two bits
that is congruent to the sum of `uᵢ * 31 ^ (n - 1 - i)`. So that of two texts, one behind the other,
is that of the first, lifted by as many powers as the second has code units, and that of the
second. -/
theorem hash_polynomial (text : String) :
    (∀ us, Encodes us text.toList ↔ us = units text) ∧
    (hash text).toInt ≡ polynomial (units text) [ZMOD 2 ^ 32] ∧
    -2 ^ 31 ≤ (hash text).toInt ∧ (hash text).toInt < 2 ^ 31 ∧
    ∀ other : String, (hash (text ++ other)).toInt ≡
      (hash text).toInt * 31 ^ (units other).length + (hash other).toInt [ZMOD 2 ^ 32] := by
  refine ⟨fun us => encodes_iff, toInt_hash_modEq text, Int32.le_toInt _, Int32.toInt_lt _, ?_⟩
  intro other
  have hfold : hash (text ++ other) =
      (units other).foldl (fun code unit => code * 31 + Int32.ofNat unit) (hash text) := by
    rw [hash, units_append, List.foldl_append, hash]
  rw [hfold]
  exact (toInt_foldl_modEq (units other) (hash text)).trans
    ((toInt_hash_modEq other).symm.add_left _)

/-- The least word is a hash code: the sum is far beyond the words, and wraps around to it. -/
example : (hash "polygenelubricants").toInt = -2 ^ 31 := by decide +kernel

end JavaSyntax.Text
