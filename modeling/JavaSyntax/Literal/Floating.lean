import JavaSyntax.Literal.Integral

/-!
# Floating literals

A decimal number with an optional sign, point and exponent, and the test whether it is close
enough to a number that a binary format can hold. The test is exact: the decimal number is a
fraction, and it rounds to infinity when it is at least as far out as the middle between the
largest finite number and the next power of two.
-/

set_option autoImplicit false

namespace JavaSyntax.Literal

/-- A decimal number, without its sign: `mantissa * 10 ^ exponent`. -/
structure Decimal where
  mantissa : Nat
  exponent : Int
  deriving DecidableEq, Repr

/-- The magnitude of an exponent. It stops growing once it is past every format, so that it
stays small however many digits it is written with. -/
def exponentMagnitude (cs : List Char) : Nat :=
  cs.foldl (fun e c => if e < 0x10000 then 10 * e + (c.toNat - '0'.toNat) else e) 0

/-- The exponent that digits with an optional sign denote. -/
def exponent? (cs : List Char) : Option Int :=
  let (negative, digits) :=
    match cs with
    | '-' :: rest => (true, rest)
    | '+' :: rest => (false, rest)
    | _ => (false, cs)
  if digits.isEmpty || !digits.all Char.isDigit then none
  else if negative then some (-exponentMagnitude digits)
  else some (exponentMagnitude digits)

/-- What follows the digits of a number: nothing, or a letter and an exponent. -/
def exponentPart? : List Char → Option Int
  | [] => some 0
  | c :: rest => if c = 'e' ∨ c = 'E' then exponent? rest else none

/-- A number without a sign: digits with at most one point among them, and an exponent. -/
def magnitude? (cs : List Char) : Option Decimal :=
  let whole := cs.takeWhile Char.isDigit
  let rest := cs.dropWhile Char.isDigit
  let (fraction, rest) :=
    match rest with
    | '.' :: rest => (rest.takeWhile Char.isDigit, rest.dropWhile Char.isDigit)
    | _ => ([], rest)
  match digits? (whole ++ fraction), exponentPart? rest with
  | some mantissa, some exponent => some ⟨mantissa, exponent - fraction.length⟩
  | _, _ => none

/-- The magnitude of a number with an optional sign. -/
def decimal? : List Char → Option Decimal
  | '+' :: rest | '-' :: rest => magnitude? rest
  | cs => magnitude? cs

/-- Whether a decimal number is less than a natural number. -/
def Decimal.isBelow (d : Decimal) (bound : Nat) : Bool :=
  match d.exponent with
  | .ofNat e => d.mantissa * Nat.pow 10 e < bound
  | .negSucc e => d.mantissa < bound * Nat.pow 10 (e + 1)

/-- The least number that rounds to infinity in a binary format, from its precision in bits and
its greatest exponent. -/
def overflow (precision greatest : Nat) : Nat :=
  Nat.pow 2 greatest - Nat.pow 2 (greatest - precision - 1)

/-- Whether a text denotes a number that a binary format can hold a neighbour of. -/
def fitsBinary (precision greatest : Nat) (cs : List Char) : Bool :=
  (decimal? cs).any (·.isBelow (overflow precision greatest))

end JavaSyntax.Literal
