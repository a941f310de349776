import JavaSyntax.Text.Quoted
import JavaSyntax.Text.Units
import Mathlib.Algebra.Group.Nat.Even
import Mathlib.Data.List.DropRight

/-!
# Reading string literals

A reader of string literals that starts at quoted text finds the text that was quoted, and stops
right behind it. Source text is read in two passes, though, and the first turns the numbers of code
units into characters wherever an escape of one stands, inside of literals too. Quoted text comes
through this unchanged, since there are never an odd number of backslashes before a `u`.
-/

set_option autoImplicit false

namespace JavaSyntax.Text

/-! ## Literals -/

/-- The text that the string literal at the beginning of a source text denotes, and what follows the
literal. -/
def readQuoted : List Char → Option (String × List Char)
  | '"' :: cs => (Quoted.decode cs).map fun (text, rest) => (String.ofList text, rest)
  | _ => none

theorem readQuoted_quoted (text : String) (rest : List Char) :
    readQuoted ((quoted text).toList ++ rest) = some (text, rest) := by
  have hsource : (quoted text).toList ++ rest
      = '"' :: (Quoted.encode text.toList ++ '"' :: rest) := by
    simp [toList_quoted]
  simp [hsource, readQuoted, Quoted.decode_encode]

/-- What was quoted, and where it ends, can be told from any text that begins with it. -/
theorem quoted_append_inj {text other : String} {rest after : List Char}
    (h : (quoted text).toList ++ rest = (quoted other).toList ++ after) :
    text = other ∧ rest = after := by
  have hread : some (text, rest) = some (other, after) := by
    rw [← readQuoted_quoted, ← readQuoted_quoted, h]
  simpa using hread

/-! ## Runs of backslashes -/

/-- How many backslashes stand in a row at the end of a text. -/
def backslashesAtEnd (cs : List Char) : Nat := (cs.rtakeWhile (· == '\\')).length

/-- Whether the row of backslashes at the end of a text is odd, given whether the row before the
text is. -/
def endsOddly (odd : Bool) (cs : List Char) : Bool := cs.foldl (fun odd c => c == '\\' && !odd) odd

theorem endsOddly_append (odd : Bool) (cs ds : List Char) :
    endsOddly odd (cs ++ ds) = endsOddly (endsOddly odd cs) ds :=
  List.foldl_append

theorem endsOddly_eq_false_iff {cs : List Char} :
    endsOddly false cs = false ↔ Even (backslashesAtEnd cs) := by
  induction cs using List.reverseRecOn with
  | nil => simp [endsOddly, backslashesAtEnd]
  | append_singleton cs c ih =>
    rw [endsOddly_append, backslashesAtEnd, List.rtakeWhile_concat]
    by_cases hc : c = '\\'
    · subst hc
      have hlength : (List.rtakeWhile (· == '\\') cs).length = backslashesAtEnd cs := rfl
      simp [endsOddly, hlength, Nat.even_add_one, ← ih]
    · simp [endsOddly, hc]

/-! ## Escapes of code units -/

/-- The value of a hexadecimal digit. -/
def hexDigit? (c : Char) : Option Nat :=
  if '0' ≤ c ∧ c ≤ '9' then some (c.toNat - '0'.toNat)
  else if 'a' ≤ c ∧ c ≤ 'f' then some (c.toNat - 'a'.toNat + 10)
  else if 'A' ≤ c ∧ c ≤ 'F' then some (c.toNat - 'A'.toNat + 10)
  else none

/-- The code unit that four hexadecimal digits number, and what follows them. -/
def hexUnit? : List Char → Option (Nat × List Char)
  | a :: b :: c :: d :: rest => do
    let digits ← [a, b, c, d].mapM hexDigit?
    return (digits.foldl (fun number digit => number * 16 + digit) 0, rest)
  | _ => none

theorem length_of_hexUnit? {cs rest : List Char} {unit : Nat}
    (h : hexUnit? cs = some (unit, rest)) : rest.length < cs.length := by
  unfold hexUnit? at h
  split at h
  · obtain ⟨digits, -, h⟩ := Option.bind_eq_some_iff.1 h
    cases h
    simp only [List.length_cons]
    omega
  · cases h

/-- The code units of a source text once the escapes of code units are resolved. Such an escape is a
backslash behind an even number of others, one `u` or more, and four hexadecimal digits; a text with
other characters in the place of the digits is refused. The flag tells whether the number of
backslashes right before the text is odd. -/
def resolveUnits (odd : Bool) : List Char → Option (List Nat)
  | [] => some []
  | c :: cs =>
    if c = '\\' ∧ odd = false ∧ cs.head? = some 'u' then
      match _h : hexUnit? (cs.dropWhile (· == 'u')) with
      | none => none
      | some (unit, rest) => (resolveUnits false rest).map (unit :: ·)
    else (resolveUnits (c == '\\' && !odd) cs).map (unitsOfChar c ++ ·)
termination_by cs => cs.length
decreasing_by
  · have hrest := length_of_hexUnit? _h
    have hdrop := (List.dropWhile_suffix (l := cs) (· == 'u')).length_le
    simp only [List.length_cons]
    omega
  · simp

theorem resolveUnits_cons {odd : Bool} {c : Char} {cs : List Char}
    (h : ¬ (c = '\\' ∧ odd = false ∧ cs.head? = some 'u')) :
    resolveUnits odd (c :: cs)
      = (resolveUnits (c == '\\' && !odd) cs).map (unitsOfChar c ++ ·) := by
  rw [resolveUnits, if_neg h]

/-- No `u` of a text stands behind an odd row of backslashes, and the text does not end in one. -/
structure Inert (odd : Bool) (cs : List Char) : Prop where
  unescaped : ∀ before after, cs = before ++ 'u' :: after → endsOddly odd before = false
  closed : endsOddly odd cs = false

theorem Inert.tail {odd : Bool} {c : Char} {cs : List Char} (h : Inert odd (c :: cs)) :
    Inert (c == '\\' && !odd) cs where
  unescaped before after hcs := h.unescaped (c :: before) after (by rw [hcs, List.cons_append])
  closed := h.closed

theorem Inert.append {odd : Bool} {cs ds : List Char} (hc : Inert odd cs) (hd : Inert false ds) :
    Inert odd (cs ++ ds) where
  unescaped := by
    intro before after h
    obtain ⟨middle, rfl, hds⟩ | ⟨middle, hcs, hmiddle⟩ := List.append_eq_append_iff.1 h
    · rw [endsOddly_append, hc.closed]
      exact hd.unescaped middle after hds
    · cases middle with
      | nil =>
        obtain rfl : cs = before := by simpa using hcs
        exact hc.closed
      | cons u middle =>
        obtain ⟨rfl, -⟩ := List.cons.inj hmiddle
        exact hc.unescaped before middle hcs
  closed := by rw [endsOddly_append, hc.closed, hd.closed]

/-- Such a text holds no escape, and what follows it is read as if nothing came before. -/
theorem Inert.resolveUnits_append {odd : Bool} {cs : List Char} (h : Inert odd cs)
    (rest : List Char) :
    resolveUnits odd (cs ++ rest)
      = (resolveUnits false rest).map (cs.flatMap unitsOfChar ++ ·) := by
  induction cs generalizing odd with
  | nil =>
    obtain rfl : odd = false := h.closed
    simp
  | cons c cs ih =>
    have hplain : ¬ (c = '\\' ∧ odd = false ∧ (cs ++ rest).head? = some 'u') := by
      rintro ⟨rfl, rfl, hhead⟩
      cases cs with
      | nil => cases h.closed
      | cons d cs =>
        obtain rfl : d = 'u' := by simpa using hhead
        cases h.unescaped ['\\'] cs rfl
    rw [List.cons_append, resolveUnits_cons hplain, ih h.tail, Option.map_map]
    simp [Function.comp_def]

/-! ## Quoted text -/

theorem inert_singleton {c : Char} (h : c ≠ '\\') : Inert false [c] where
  unescaped before after hc := by
    cases before with
    | nil => rfl
    | cons d before => simp at hc
  closed := by simp [endsOddly, h]

/-- A backslash with the letter behind it is a pair, the letter being another backslash or not. -/
theorem inert_escape {letter : Char} (h : letter ≠ 'u') : Inert false ['\\', letter] where
  unescaped before after hc := by
    obtain _ | ⟨first, _ | ⟨second, before⟩⟩ := before
    · simp at hc
    · simp [h] at hc
    · simp at hc
  closed := by simp [endsOddly]

theorem inert_encode (cs : List Char) : Inert false (Quoted.encode cs) := by
  induction cs with
  | nil => exact ⟨by simp [Quoted.encode], rfl⟩
  | cons c cs ih =>
    rw [Quoted.encode_cons]
    refine Inert.append ?_ ih
    unfold Quoted.encodeChar
    split
    · next letter hletter =>
      apply inert_escape
      rintro rfl
      cases Quoted.unescape?_of_escape? hletter
    · next hnone => exact inert_singleton (Quoted.escape?_eq_none_iff.1 hnone).1

theorem inert_quoted (text : String) : Inert false (quoted text).toList := by
  rw [toList_quoted]
  exact (inert_singleton (by decide)).append
    ((inert_encode text.toList).append (inert_singleton (by decide)))

/-- Quoted text is read back as what was quoted, whatever follows it. No `u` in it stands behind an
odd number of backslashes, so that no escape of a code unit is resolved in it. Hence no two texts
are quoted alike, and none as the beginning of another. -/
theorem quoted_faithful :
    (∀ (text : String) (rest : List Char),
      readQuoted ((quoted text).toList ++ rest) = some (text, rest)) ∧
    (∀ (text : String) (before after : List Char),
      (quoted text).toList = before ++ 'u' :: after → Even (backslashesAtEnd before)) ∧
    (∀ (text : String) (rest : List Char),
      resolveUnits false ((quoted text).toList ++ rest)
        = (resolveUnits false rest).map (units (quoted text) ++ ·)) ∧
    Function.Injective quoted ∧
    ∀ text other : String, (quoted text).toList <+: (quoted other).toList ↔ text = other := by
  refine ⟨readQuoted_quoted, fun text before after h => ?_, fun text rest => ?_,
    fun text other h => ?_, fun text other => ⟨?_, ?_⟩⟩
  · exact endsOddly_eq_false_iff.1 ((inert_quoted text).unescaped before after h)
  · exact (inert_quoted text).resolveUnits_append rest
  · have happend : (quoted text).toList ++ [] = (quoted other).toList ++ [] := by rw [h]
    exact (quoted_append_inj happend).1
  · rintro ⟨rest, h⟩
    have happend : (quoted text).toList ++ rest = (quoted other).toList ++ [] := by simpa using h
    exact (quoted_append_inj happend).1
  · rintro rfl
    exact List.prefix_rfl

/-- Text that looks like the escape of a code unit is quoted with two backslashes before the `u`,
and is no escape then. -/
theorem quoted_faithful_escape :
    (quoted "\\u0041").toList = ['"', '\\', '\\'] ++ 'u' :: ['0', '0', '4', '1', '"'] ∧
      Even (backslashesAtEnd ['"', '\\', '\\']) ∧
      resolveUnits false (quoted "\\u0041").toList = some (units (quoted "\\u0041")) := by
  have hquoted : (quoted "\\u0041").toList
      = ['"', '\\', '\\'] ++ 'u' :: ['0', '0', '4', '1', '"'] := by decide +kernel
  obtain ⟨-, heven, hresolve, -⟩ := quoted_faithful
  have hunits := hresolve "\\u0041" []
  rw [List.append_nil] at hunits
  exact ⟨hquoted, heven _ _ _ hquoted, hunits.trans (by simp [resolveUnits])⟩

end JavaSyntax.Text
