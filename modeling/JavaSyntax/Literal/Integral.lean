/-!
# Integral literals

A sign and decimal digits, read as an integer, and the range that each width can hold.
-/

set_option autoImplicit false

namespace JavaSyntax.Literal

/-- The number that decimal digits denote, the most significant first; one digit at least. -/
def digits? (cs : List Char) : Option Nat :=
  if cs.isEmpty || !cs.all Char.isDigit then none
  else some (cs.foldl (fun n c => 10 * n + (c.toNat - '0'.toNat)) 0)

/-- The number that digits with an optional plus sign denote. -/
def unsigned? : List Char → Option Nat
  | '+' :: rest => digits? rest
  | cs => digits? cs

/-- The integer that digits with an optional sign denote. -/
def signed? : List Char → Option Int
  | '-' :: rest => (digits? rest).map fun n => -n
  | cs => (unsigned? cs).map Int.ofNat

/-- The number of negative values of a signed word of this many bits. -/
def halfRange (bits : Nat) : Nat := Nat.pow 2 (bits - 1)

/-- Whether a text denotes an integer that a signed word of this many bits holds. -/
def fitsSigned (bits : Nat) (cs : List Char) : Bool :=
  (signed? cs).any fun n => -Int.ofNat (halfRange bits) ≤ n && n < Int.ofNat (halfRange bits)

/-- Whether a text denotes a number that an unsigned word of this many bits holds. -/
def fitsUnsigned (bits : Nat) (cs : List Char) : Bool :=
  (unsigned? cs).any (· < Nat.pow 2 bits)

/-- A text without its last character, if that is one of these. -/
def dropSuffix (suffixes : List Char) (cs : List Char) : List Char :=
  match cs.getLast? with
  | some c => if c ∈ suffixes then cs.dropLast else cs
  | none => cs

theorem fitsSigned_iff {bits : Nat} {cs : List Char} :
    fitsSigned bits cs = true ↔
      ∃ n, signed? cs = some n ∧ -Int.ofNat (halfRange bits) ≤ n ∧
        n < Int.ofNat (halfRange bits) := by
  simp [fitsSigned, Option.any_eq_true]

theorem fitsUnsigned_iff {bits : Nat} {cs : List Char} :
    fitsUnsigned bits cs = true ↔ ∃ n, unsigned? cs = some n ∧ n < Nat.pow 2 bits := by
  simp [fitsUnsigned, Option.any_eq_true]

end JavaSyntax.Literal
