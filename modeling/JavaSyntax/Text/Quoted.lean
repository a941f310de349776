/-!
# Quoted text

The source form of a string literal: the text between double quotes, with a backslash before a
backslash, a double quote and the three control characters that have a letter. Every other
character stands for itself. `decode_encode` reads any quoted text back, whatever follows it.
-/

set_option autoImplicit false

namespace JavaSyntax.Text.Quoted

/-- The letter that follows the backslash for a character that cannot stand for itself. -/
def escape? : Char → Option Char
  | '\\' => some '\\'
  | '"' => some '"'
  | '\n' => some 'n'
  | '\r' => some 'r'
  | '\t' => some 't'
  | _ => none

/-- One character between the quotes. -/
def encodeChar (c : Char) : List Char :=
  match escape? c with
  | some letter => ['\\', letter]
  | none => [c]

/-- The characters between the quotes. -/
def encode (cs : List Char) : List Char := cs.flatMap encodeChar

/-- The character that a backslash followed by this letter stands for. -/
def unescape? : Char → Option Char
  | '\\' => some '\\'
  | '"' => some '"'
  | 'n' => some '\n'
  | 'r' => some '\r'
  | 't' => some '\t'
  | _ => none

/-- Reads the inside of a literal up to the closing quote, and returns what follows it. Refuses
a raw line end, an unknown escape and a literal that is not closed. -/
def decode : List Char → Option (List Char × List Char)
  | [] => none
  | '"' :: rest => some ([], rest)
  | '\\' :: letter :: rest =>
    match unescape? letter, decode rest with
    | some c, some (text, after) => some (c :: text, after)
    | _, _ => none
  | c :: rest =>
    if c = '\\' ∨ c = '\n' ∨ c = '\r' then none
    else (decode rest).map fun (text, after) => (c :: text, after)

theorem unescape?_of_escape? {c letter : Char} (h : escape? c = some letter) :
    unescape? letter = some c := by
  unfold escape? at h
  split at h <;> cases h <;> rfl

/-- What stands for itself. -/
theorem escape?_eq_none_iff {c : Char} :
    escape? c = none ↔ c ≠ '\\' ∧ c ≠ '"' ∧ c ≠ '\n' ∧ c ≠ '\r' ∧ c ≠ '\t' := by
  unfold escape?
  split <;> simp_all

theorem encode_cons (c : Char) (cs : List Char) : encode (c :: cs) = encodeChar c ++ encode cs := by
  simp [encode]

/-- Quoted text reads back as itself and ends at its own closing quote. -/
theorem decode_encode (cs after : List Char) : decode (encode cs ++ '"' :: after) = some (cs, after) := by
  induction cs with
  | nil => rfl
  | cons c cs ih =>
    rw [encode_cons, List.append_assoc]
    unfold encodeChar
    split
    · next letter h => simp [decode, unescape?_of_escape? h, ih]
    · next h =>
      obtain ⟨hbackslash, hquote, hfeed, hreturn, -⟩ := escape?_eq_none_iff.1 h
      have hd : decode (c :: (encode cs ++ '"' :: after))
          = (decode (encode cs ++ '"' :: after)).map fun (text, after) => (c :: text, after) := by
        rw [decode.eq_def]
        split <;> simp_all
      simp [hd, ih]

/-- No character is encoded with a line feed. -/
theorem newline_not_mem_encodeChar (c : Char) : '\n' ∉ encodeChar c := by
  unfold encodeChar
  split
  · next letter h =>
    have hletter : letter ≠ '\n' := by
      rintro rfl
      cases unescape?_of_escape? h
    simp [hletter.symm]
  · next h => simpa using (escape?_eq_none_iff.1 h).2.2.1.symm

end Quoted

/-- The string literal that denotes `text`. -/
def quoted (text : String) : String :=
  String.ofList ('"' :: Quoted.encode text.toList ++ ['"'])

theorem toList_quoted (text : String) :
    (quoted text).toList = '"' :: (Quoted.encode text.toList ++ ['"']) := by
  simp [quoted]

/-- Quoted text stays in its line. -/
theorem newline_not_mem_quoted (text : String) : '\n' ∉ (quoted text).toList := by
  have hencode : '\n' ∉ Quoted.encode text.toList := by
    rw [Quoted.encode, List.mem_flatMap]
    rintro ⟨c, -, hc⟩
    exact Quoted.newline_not_mem_encodeChar c hc
  simp [toList_quoted, hencode]

end JavaSyntax.Text
