/-!
# Code units

A text as a sequence of sixteen-bit code units, in which a character beyond the first 65536 is
a pair of surrogates, and the hash code that is computed over those units.
-/

set_option autoImplicit false

namespace JavaSyntax.Text

/-- The code units of one character. -/
def unitsOfChar (c : Char) : List Nat :=
  if c.toNat < 0x10000 then [c.toNat]
  else [0xD800 + (c.toNat - 0x10000) / 0x400, 0xDC00 + (c.toNat - 0x10000) % 0x400]

/-- The code units of a text. -/
def units (text : String) : List Nat := text.toList.flatMap unitsOfChar

/-- The hash code of a text: the code units are the digits of a number in base 31, kept as a
signed word of thirty-two bits at every step. -/
def hash (text : String) : Int32 :=
  (units text).foldl (fun code unit => code * 31 + Int32.ofNat unit) 0

theorem toNat_lt (c : Char) : c.toNat < 0x110000 := by
  rcases c.valid with h | ⟨-, h⟩
  · exact Nat.lt_trans h (by decide)
  · exact h

theorem unitsOfChar_lt {c : Char} {unit : Nat} (h : unit ∈ unitsOfChar c) : unit < 0x10000 := by
  have hc := toNat_lt c
  unfold unitsOfChar at h
  split at h
  · simp_all
  · simp only [List.mem_cons, List.not_mem_nil, or_false] at h
    omega

theorem units_append (a b : String) : units (a ++ b) = units a ++ units b := by
  simp [units]

end JavaSyntax.Text
