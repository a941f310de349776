/-!
# Character literals

One character between single quotes, or one escape: a backslash with a letter, with `u` and four
hexadecimal digits, or with one to three octal digits that denote at most 255.
-/

set_option autoImplicit false

namespace JavaSyntax.Literal

/-- The characters that an escape may consist of alone. -/
def escapeLetters : List Char := ['b', 't', 'n', 'f', 'r', '"', '\'', '\\']

/-- Whether a character is a hexadecimal digit. -/
def isHexDigit (c : Char) : Bool :=
  c.isDigit || ('a' ≤ c && c ≤ 'f') || ('A' ≤ c && c ≤ 'F')

/-- Whether a character is an octal digit. -/
def isOctalDigit (c : Char) : Bool := '0' ≤ c && c ≤ '7'

/-- Whether the digits are those of an octal escape. -/
def isOctalEscape : List Char → Bool
  | [] => false
  | c :: rest =>
    isOctalDigit c && rest.all isOctalDigit && rest.length ≤ if c ≤ '3' then 2 else 1

/-- Whether this is what may follow the backslash of an escape. -/
def isEscape : List Char → Bool
  | [c] => escapeLetters.contains c || isOctalDigit c
  | 'u' :: digits => digits.length == 4 && digits.all isHexDigit
  | cs => isOctalEscape cs

/-- Whether this is what may stand between the quotes. -/
def isCharacterBody : List Char → Bool
  | '\\' :: escape => isEscape escape
  | [c] => c != '\''
  | _ => false

/-- Whether a text is a character literal in quotes. -/
def isCharacter : List Char → Bool
  | '\'' :: rest => rest.getLast? == some '\'' && isCharacterBody rest.dropLast
  | _ => false

end JavaSyntax.Literal
