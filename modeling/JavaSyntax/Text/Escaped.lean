import JavaSyntax.Text.Unprintable
import JavaSyntax.Text.Extending

/-!
# Escaped text

How a diagnostic shows a text so that every character of it can be read: between double quotes,
with a backslash before a double quote and a backslash, letters for tab, carriage return and
line feed, a zero for the null character, and the code point in hexadecimal for a character
that is unprintable or extends the one before it.
-/

set_option autoImplicit false

namespace JavaSyntax.Text

/-- A code point in lower-case hexadecimal, without leading zeros, between braces. -/
def codePoint (c : Char) : String :=
  "\\u\x7b" ++ String.ofList (Nat.toDigits 16 c.toNat) ++ "\x7d"

/-- One character of an escaped text. -/
def escapedChar (c : Char) : String :=
  match c with
  | '\x00' => "\\0"
  | '\t' => "\\t"
  | '\r' => "\\r"
  | '\n' => "\\n"
  | '"' => "\\\""
  | '\\' => "\\\\"
  | _ => if isExtending c || isUnprintable c then codePoint c else c.toString

/-- A text as a diagnostic shows it. -/
def escaped (text : String) : String :=
  "\"" ++ String.join (text.toList.map escapedChar) ++ "\""

end JavaSyntax.Text
