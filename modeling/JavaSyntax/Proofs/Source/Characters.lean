import JavaSyntax.Proofs.Source.Integers
import JavaSyntax.Proofs.Source.Strings

/-!
# Characters in source text

What stands between the quotes of a character literal denotes one code unit: a character that is no
more than that, or one escape. Everything that does is accepted. What is accepted besides is exactly
one raw character that cannot stand there, since it ends the line or takes two code units.

Escapes of code units are taken by the number that they give. Where they are resolved before the
literals are read, the character of that number stands in their place.
-/

set_option autoImplicit false

namespace JavaSyntax.Literal

/-! ## The grammar -/

/-- The code unit that a backslash followed by this character denotes. -/
def letterUnit? : Char → Option Nat
  | 'b' => some 0x08
  | 't' => some 0x09
  | 'n' => some 0x0A
  | 'f' => some 0x0C
  | 'r' => some 0x0D
  | '"' => some 0x22
  | '\'' => some 0x27
  | '\\' => some 0x5C
  | _ => none

/-- What may stand between the quotes of a character literal, with the code unit that it denotes. -/
inductive DenotesUnit : List Char → Nat → Prop
  | raw {c : Char} {unit : Nat} (units : Text.unitsOfChar c = [unit])
      (quote : c ≠ '\'') (backslash : c ≠ '\\') (newline : c ≠ '\n') (ret : c ≠ '\r') :
      DenotesUnit [c] unit
  | letter {c : Char} {unit : Nat} (escape : letterUnit? c = some unit) :
      DenotesUnit ['\\', c] unit
  | unit {digits : List Char} {unit : Nat} (number : Text.hexUnit? digits = some (unit, [])) :
      DenotesUnit ('\\' :: 'u' :: digits) unit
  | octal {digits : List Char} (nonempty : digits ≠ []) (length : digits.length ≤ 3)
      (all : ∀ c ∈ digits, isOctalDigit c = true) (small : numberIn 8 digits ≤ 0xFF) :
      DenotesUnit ('\\' :: digits) (numberIn 8 digits)

/-- Whether a character is on one line with what is around it and takes one code unit. -/
def IsOneUnit (c : Char) : Prop := c ≠ '\n' ∧ c ≠ '\r' ∧ c.toNat < 0x10000

instance (c : Char) : Decidable (IsOneUnit c) := inferInstanceAs (Decidable (_ ∧ _))

/-! ## Letters -/

theorem exists_letterUnit?_iff {c : Char} :
    (∃ unit, letterUnit? c = some unit) ↔ c ∈ escapeLetters := by
  unfold letterUnit?
  split <;> simp_all [escapeLetters]

theorem not_isOctalDigit_of_letterUnit? {c : Char} {unit : Nat} (h : letterUnit? c = some unit) :
    isOctalDigit c = false := by
  have hall : escapeLetters.all (!isOctalDigit ·) = true := by decide
  simpa using List.all_eq_true.1 hall c (exists_letterUnit?_iff.1 ⟨unit, h⟩)

theorem letterUnit?_lt {c : Char} {unit : Nat} (h : letterUnit? c = some unit) :
    unit < 0x10000 := by
  unfold letterUnit? at h
  split at h <;> cases h <;> decide

/-! ## Hexadecimal digits -/

theorem isHexDigit_iff {c : Char} :
    isHexDigit c = true ↔
      48 ≤ c.toNat ∧ c.toNat ≤ 57 ∨ 97 ≤ c.toNat ∧ c.toNat ≤ 102 ∨
        65 ≤ c.toNat ∧ c.toNat ≤ 70 := by
  simp only [isHexDigit, Char.isDigit, Bool.or_eq_true, Bool.and_eq_true, decide_eq_true_eq,
    or_assoc]
  exact Iff.rfl

theorem hexDigit?_eq_some {c : Char} {digit : Nat} (h : Text.hexDigit? c = some digit) :
    isHexDigit c = true ∧ digit < 16 := by
  have hle : ∀ c d : Char, c ≤ d ↔ c.toNat ≤ d.toNat := fun _ _ => Iff.rfl
  rw [isHexDigit_iff]
  unfold Text.hexDigit? at h
  simp only [hle, Char.reduceToNat] at h
  split at h
  · cases h; omega
  · split at h
    · cases h; omega
    · split at h
      · cases h; omega
      · cases h

theorem exists_hexDigit?_iff {c : Char} :
    (∃ digit, Text.hexDigit? c = some digit) ↔ isHexDigit c = true := by
  refine ⟨fun ⟨digit, h⟩ => (hexDigit?_eq_some h).1, fun h => ?_⟩
  have hle : ∀ c d : Char, c ≤ d ↔ c.toNat ≤ d.toNat := fun _ _ => Iff.rfl
  rw [isHexDigit_iff] at h
  simp only [Text.hexDigit?, hle, Char.reduceToNat]
  split
  · exact ⟨_, rfl⟩
  · split
    · exact ⟨_, rfl⟩
    · split
      · exact ⟨_, rfl⟩
      · omega

theorem IsOneUnit.of_isHexDigit {c : Char} (h : isHexDigit c = true) : IsOneUnit c := by
  refine ⟨?_, ?_, ?_⟩
  · rintro rfl
    exact absurd h (by decide)
  · rintro rfl
    exact absurd h (by decide)
  · rw [isHexDigit_iff] at h
    omega

/-- Four digits make up the number of a code unit. -/
theorem hexUnit?_eq_some_iff {digits : List Char} {unit : Nat} :
    Text.hexUnit? digits = some (unit, []) ↔
      ∃ a b c d w x y z, digits = [a, b, c, d] ∧
        Text.hexDigit? a = some w ∧ Text.hexDigit? b = some x ∧ Text.hexDigit? c = some y ∧
        Text.hexDigit? d = some z ∧ ((w * 16 + x) * 16 + y) * 16 + z = unit := by
  constructor
  · intro h
    unfold Text.hexUnit? at h
    split at h
    · next a b c d rest =>
      simp only [List.mapM_cons, List.mapM_nil, Option.bind_eq_bind, Option.bind_eq_some_iff,
        Option.pure_def, Option.some_inj] at h
      obtain ⟨_, ⟨w, ha, _, ⟨x, hb, _, ⟨y, hc, _, ⟨z, hd, _, rfl, rfl⟩, rfl⟩, rfl⟩, rfl⟩, hunit⟩ :=
        h
      obtain ⟨hvalue, rfl⟩ := Prod.mk.inj hunit
      exact ⟨a, b, c, d, w, x, y, z, rfl, ha, hb, hc, hd, by simpa using hvalue⟩
    · cases h
  · rintro ⟨a, b, c, d, w, x, y, z, rfl, ha, hb, hc, hd, rfl⟩
    simp [Text.hexUnit?, ha, hb, hc, hd]

theorem exists_hexUnit?_iff {digits : List Char} :
    (∃ unit, Text.hexUnit? digits = some (unit, [])) ↔
      digits.length = 4 ∧ ∀ c ∈ digits, isHexDigit c = true := by
  simp only [hexUnit?_eq_some_iff]
  constructor
  · rintro ⟨unit, a, b, c, d, w, x, y, z, rfl, ha, hb, hc, hd, -⟩
    refine ⟨rfl, ?_⟩
    simp [(hexDigit?_eq_some ha).1, (hexDigit?_eq_some hb).1, (hexDigit?_eq_some hc).1,
      (hexDigit?_eq_some hd).1]
  · rintro ⟨hlength, hall⟩
    obtain ⟨a, b, c, d, rfl⟩ := List.length_eq_four.1 hlength
    obtain ⟨w, ha⟩ := exists_hexDigit?_iff.2 (hall a (by simp))
    obtain ⟨x, hb⟩ := exists_hexDigit?_iff.2 (hall b (by simp))
    obtain ⟨y, hc⟩ := exists_hexDigit?_iff.2 (hall c (by simp))
    obtain ⟨z, hd⟩ := exists_hexDigit?_iff.2 (hall d (by simp))
    exact ⟨_, a, b, c, d, w, x, y, z, rfl, ha, hb, hc, hd, rfl⟩

theorem hexUnit?_lt {digits : List Char} {unit : Nat}
    (h : Text.hexUnit? digits = some (unit, [])) : unit < 0x10000 := by
  obtain ⟨a, b, c, d, w, x, y, z, -, ha, hb, hc, hd, rfl⟩ := hexUnit?_eq_some_iff.1 h
  have hw := (hexDigit?_eq_some ha).2
  have hx := (hexDigit?_eq_some hb).2
  have hy := (hexDigit?_eq_some hc).2
  have hz := (hexDigit?_eq_some hd).2
  omega

/-! ## Octal digits -/

theorem sub_lt_of_isOctalDigit {c : Char} (h : isOctalDigit c = true) : c.toNat - 48 < 8 :=
  (isOctalDigit_iff.1 h).2

/-- With three digits the number is small enough exactly if the first one is, and with fewer it
always is. -/
theorem length_le_iff_numberIn_le {first : Char} {rest : List Char}
    (h : ∀ c ∈ first :: rest, isOctalDigit c = true) :
    rest.length ≤ (if first ≤ '3' then 2 else 1) ↔
      rest.length ≤ 2 ∧ numberIn 8 (first :: rest) ≤ 0xFF := by
  have hthree : first ≤ '3' ↔ first.toNat - 48 ≤ 3 := by
    have hle : first ≤ '3' ↔ first.toNat ≤ 51 := Iff.rfl
    rw [hle]
    omega
  have hfirst := sub_lt_of_isOctalDigit (h first (by simp))
  simp only [numberIn, List.foldl_cons, Char.reduceToNat, hthree, Nat.mul_zero, Nat.zero_add]
  rcases rest with _ | ⟨second, _ | ⟨third, _ | ⟨fourth, rest⟩⟩⟩
  · simp only [List.foldl_nil, List.length_nil]
    omega
  · have hsecond := sub_lt_of_isOctalDigit (h second (by simp))
    simp only [List.foldl_cons, List.foldl_nil, List.length_cons, List.length_nil]
    split <;> omega
  · have hsecond := sub_lt_of_isOctalDigit (h second (by simp))
    have hthird := sub_lt_of_isOctalDigit (h third (by simp))
    simp only [List.foldl_cons, List.foldl_nil, List.length_cons, List.length_nil]
    split <;> omega
  · simp only [List.length_cons]
    split <;> omega

theorem isOctalEscape_iff {digits : List Char} :
    isOctalEscape digits = true ↔
      digits ≠ [] ∧ digits.length ≤ 3 ∧ (∀ c ∈ digits, isOctalDigit c = true) ∧
        numberIn 8 digits ≤ 0xFF := by
  cases digits with
  | nil => simp [isOctalEscape]
  | cons first rest =>
    simp only [isOctalEscape, Bool.and_eq_true, List.all_eq_true, decide_eq_true_eq]
    rw [← List.forall_mem_cons (p := (isOctalDigit · = true))]
    constructor
    · rintro ⟨hall, hlength⟩
      obtain ⟨htwo, hsmall⟩ := (length_le_iff_numberIn_le hall).1 hlength
      exact ⟨List.cons_ne_nil _ _, Nat.succ_le_succ htwo, hall, hsmall⟩
    · rintro ⟨-, hlength, hall, hsmall⟩
      exact ⟨hall, (length_le_iff_numberIn_le hall).2 ⟨Nat.le_of_succ_le_succ hlength, hsmall⟩⟩

/-! ## Escapes -/

theorem isEscape_of_isOctalEscape {digits : List Char} (h : isOctalEscape digits = true) :
    isEscape digits = true := by
  obtain ⟨-, -, hall, -⟩ := isOctalEscape_iff.1 h
  unfold isEscape
  split
  · next c => simp [hall c (by simp)]
  · exact absurd (hall 'u' (by simp)) (by decide)
  · exact h

/-- A backslash begins an escape exactly if it and what follows it denote a code unit. -/
theorem isEscape_iff {cs : List Char} :
    isEscape cs = true ↔ ∃ unit, DenotesUnit ('\\' :: cs) unit := by
  constructor
  · intro h
    have hoctal : isOctalEscape cs = true → ∃ unit, DenotesUnit ('\\' :: cs) unit := by
      intro h
      obtain ⟨hne, hlength, hall, hsmall⟩ := isOctalEscape_iff.1 h
      exact ⟨_, .octal hne hlength hall hsmall⟩
    unfold isEscape at h
    split at h
    · next c =>
      rcases Bool.or_eq_true_iff.1 h with hletter | hdigit
      · obtain ⟨unit, hunit⟩ := exists_letterUnit?_iff.2 (List.contains_iff_mem.1 hletter)
        exact ⟨unit, .letter hunit⟩
      · exact hoctal (by simp [isOctalEscape, hdigit])
    · next digits _ =>
      rw [Bool.and_eq_true, beq_iff_eq, List.all_eq_true] at h
      obtain ⟨unit, hunit⟩ := exists_hexUnit?_iff.2 h
      exact ⟨unit, .unit hunit⟩
    · exact hoctal h
  · rintro ⟨unit, h⟩
    cases h with
    | raw units quote backslash newline ret => exact absurd rfl backslash
    | letter escape =>
      have hletter := exists_letterUnit?_iff.1 ⟨unit, escape⟩
      simp [isEscape, hletter]
    | unit number =>
      obtain ⟨hlength, hall⟩ := exists_hexUnit?_iff.1 ⟨unit, number⟩
      obtain ⟨a, b, c, d, rfl⟩ := List.length_eq_four.1 hlength
      simpa [isEscape] using hall
    | octal nonempty length all small =>
      exact isEscape_of_isOctalEscape (isOctalEscape_iff.2 ⟨nonempty, length, all, small⟩)

/-! ## Bodies -/

/-- What denotes a code unit denotes no other. -/
theorem DenotesUnit.unique {body : List Char} {m n : Nat} (hm : DenotesUnit body m)
    (hn : DenotesUnit body n) : m = n := by
  -- Three of the rules begin with a backslash; the character behind it tells them apart.
  have hletter : ∀ {c : Char} {unit : Nat}, letterUnit? c = some unit →
      ¬ ∀ d ∈ [c], isOctalDigit d = true := by
    intro c unit escape all
    exact absurd (all c (by simp)) (by simp [not_isOctalDigit_of_letterUnit? escape])
  have hunit : ∀ {digits : List Char}, ¬ ∀ d ∈ 'u' :: digits, isOctalDigit d = true :=
    fun all => absurd (all 'u' (by simp)) (by decide)
  cases hm with
  | raw units _ backslash =>
    cases hn with
    | raw units' => simpa using units.symm.trans units'
    | octal => exact absurd rfl backslash
  | letter escape =>
    cases hn with
    | letter escape' => exact Option.some.inj (escape.symm.trans escape')
    | unit number => cases number
    | octal _ _ all => exact absurd all (hletter escape)
  | unit number =>
    cases hn with
    | letter escape => cases number
    | unit number' => simpa using number.symm.trans number'
    | octal _ _ all => exact absurd all hunit
  | octal _ _ all =>
    generalize hvalue : numberIn 8 _ = value
    cases hn with
    | raw _ _ backslash => exact absurd rfl backslash
    | letter escape => exact absurd all (hletter escape)
    | unit number => exact absurd all hunit
    | octal => exact hvalue.symm

theorem DenotesUnit.lt {body : List Char} {unit : Nat} (h : DenotesUnit body unit) :
    unit < 0x10000 := by
  cases h with
  | raw units => exact Text.unitsOfChar_lt (units ▸ List.mem_singleton_self unit)
  | letter escape => exact letterUnit?_lt escape
  | unit number => exact hexUnit?_lt number
  | octal _ _ _ small => omega

theorem unitsOfChar_eq_singleton_iff {c : Char} {unit : Nat} :
    Text.unitsOfChar c = [unit] ↔ c.toNat < 0x10000 ∧ c.toNat = unit := by
  unfold Text.unitsOfChar
  split <;> simp_all

theorem DenotesUnit.isOneUnit {body : List Char} {unit : Nat} (h : DenotesUnit body unit) :
    ∀ c ∈ body, IsOneUnit c := by
  have hbackslash : IsOneUnit '\\' := by decide
  cases h with
  | raw units _ _ newline ret =>
    exact List.forall_mem_singleton.2 ⟨newline, ret, (unitsOfChar_eq_singleton_iff.1 units).1⟩
  | letter escape =>
    have hall : escapeLetters.all (IsOneUnit ·) = true := by decide
    have hletter := List.all_eq_true.1 hall _ (exists_letterUnit?_iff.1 ⟨unit, escape⟩)
    exact List.forall_mem_cons.2
      ⟨hbackslash, List.forall_mem_singleton.2 (of_decide_eq_true hletter)⟩
  | unit number =>
    have hdigits := (exists_hexUnit?_iff.1 ⟨unit, number⟩).2
    refine List.forall_mem_cons.2 ⟨hbackslash, List.forall_mem_cons.2 ⟨by decide, ?_⟩⟩
    exact fun c hc => .of_isHexDigit (hdigits c hc)
  | octal _ _ all _ =>
    refine List.forall_mem_cons.2 ⟨hbackslash, fun c hc => ?_⟩
    exact .of_isHexDigit (isHexDigit_of_isOctalDigit (all c hc))

theorem isCharacterBody_of_denotesUnit {body : List Char} {unit : Nat}
    (h : DenotesUnit body unit) : isCharacterBody body = true := by
  cases body with
  | nil => cases h
  | cons c cs =>
    by_cases hbackslash : c = '\\'
    · subst hbackslash
      exact isEscape_iff.2 ⟨unit, h⟩
    · cases h with
      | raw units quote => simp [isCharacterBody, quote]
      | letter => exact absurd rfl hbackslash
      | unit => exact absurd rfl hbackslash
      | octal => exact absurd rfl hbackslash

/-- A body that is accepted fails to denote a code unit only for a raw character. -/
theorem exists_denotesUnit_of_isCharacterBody {body : List Char}
    (h : isCharacterBody body = true) (hone : ∀ c ∈ body, IsOneUnit c) :
    ∃ unit, DenotesUnit body unit := by
  unfold isCharacterBody at h
  split at h
  · exact isEscape_iff.1 h
  · next c hbackslash =>
    obtain ⟨hfeed, hreturn, hlt⟩ := hone c (by simp)
    have hquote : c ≠ '\'' := by simpa using h
    have hunits := unitsOfChar_eq_singleton_iff.2 ⟨hlt, rfl⟩
    exact ⟨c.toNat, .raw hunits hquote hbackslash hfeed hreturn⟩
  · cases h

/-! ## Accepted characters -/

theorem isCharacter_quoted (body : List Char) :
    isCharacter ('\'' :: body ++ ['\'']) = isCharacterBody body := by
  simp [isCharacter]

theorem isCharacter_of_ofString {text : String} {l : Literal}
    (h : ofString (.ofPrimitive .char) text = .ok l) (hquote : text.toList.head? = some '\'') :
    isCharacter text.toList = true := by
  obtain ⟨-, hvalid⟩ := eq_of_ofString_eq_ok h
  refine (Bool.or_eq_true_iff.1 hvalid).resolve_right fun hnumber => ?_
  have hnumeral := isNumeral_of_fitsUnsigned hnumber '\'' (List.mem_of_head? hquote)
  exact absurd hnumeral (by decide)

/-- A text that begins with a quote is accepted only if it has a body between quotes, and this body
denotes exactly one code unit if no character in it ends the line or takes two code units. If the
body denotes a code unit, the text is accepted. -/
theorem ofString_char_denotesUnit {text : String} (hquote : text.toList.head? = some '\'') :
    (∀ l, ofString (.ofPrimitive .char) text = .ok l →
      ∃ body, l.text.toList = '\'' :: body ++ ['\''] ∧
        ((∃! unit, DenotesUnit body unit) ↔ ∀ c ∈ body, IsOneUnit c)) ∧
    ∀ body unit, text.toList = '\'' :: body ++ ['\''] → DenotesUnit body unit →
      unit < 0x10000 ∧ ∃ l, ofString (.ofPrimitive .char) text = .ok l := by
  refine ⟨fun l h => ?_, fun body unit htext h => ⟨h.lt, ?_⟩⟩
  · obtain ⟨body, htext, hbody⟩ := exists_body_of_isCharacter (isCharacter_of_ofString h hquote)
    rw [(eq_of_ofString_eq_ok h).1]
    refine ⟨body, htext, fun ⟨unit, hunit, _⟩ => hunit.isOneUnit, fun hone => ?_⟩
    obtain ⟨unit, hunit⟩ := exists_denotesUnit_of_isCharacterBody hbody hone
    exact ⟨unit, hunit, fun other hother => hother.unique hunit⟩
  · have hcharacter : isCharacter text.toList = true := by
      rw [htext, isCharacter_quoted]
      exact isCharacterBody_of_denotesUnit h
    have hvalid : Primitive.isLiteral .char text = true := Bool.or_eq_true_iff.2 (.inl hcharacter)
    exact ⟨⟨.char, text, hvalid⟩, dif_pos hvalid⟩

/-- The escape with the greatest octal number. -/
theorem ofString_char_denotesUnit_octal :
    "'\\377'".toList = '\'' :: ['\\', '3', '7', '7'] ++ ['\''] ∧
      DenotesUnit ['\\', '3', '7', '7'] 0xFF ∧
      ∃ l, ofString (.ofPrimitive .char) "'\\377'" = .ok l ∧
        ∃ body, l.text.toList = '\'' :: body ++ ['\''] ∧ ∃! unit, DenotesUnit body unit := by
  have htext : "'\\377'".toList = '\'' :: ['\\', '3', '7', '7'] ++ ['\''] := by decide
  have hdigits : ∀ c ∈ ['3', '7', '7'], isOctalDigit c = true :=
    List.all_eq_true.1 (by decide)
  have hoctal : DenotesUnit ['\\', '3', '7', '7'] 0xFF :=
    .octal (List.cons_ne_nil '3' ['7', '7']) (by decide) hdigits (by decide)
  have hquote : "'\\377'".toList.head? = some '\'' := by decide
  obtain ⟨haccepted, hdenoted⟩ := ofString_char_denotesUnit hquote
  obtain ⟨-, l, hl⟩ := hdenoted _ _ htext hoctal
  obtain ⟨body, hbody, hiff⟩ := haccepted l hl
  have hsame : '\'' :: ['\\', '3', '7', '7'] ++ ['\''] = '\'' :: body ++ ['\''] := by
    rw [← htext, ← hbody, (eq_of_ofString_eq_ok hl).1]
  obtain rfl := (List.cons.inj (List.append_cancel_right hsame)).2
  exact ⟨htext, hoctal, l, hl, _, hbody, hiff.2 hoctal.isOneUnit⟩

/-- A line end and a character of two code units are accepted between quotes. -/
theorem ofString_char_raw :
    (∃ l, ofString (.ofPrimitive .char) "'\n'" = .ok l ∧
      l.text.toList = '\'' :: ['\n'] ++ ['\''] ∧ ∀ unit, ¬ DenotesUnit ['\n'] unit) ∧
    ∃ l, ofString (.ofPrimitive .char) "'😀'" = .ok l ∧
      l.text.toList = '\'' :: ['😀'] ++ ['\''] ∧ ∀ unit, ¬ DenotesUnit ['😀'] unit := by
  have hfeed : ¬ IsOneUnit '\n' := by decide
  have hpair : ¬ IsOneUnit '😀' := by decide
  have hone : ∀ {c : Char} {unit : Nat}, DenotesUnit [c] unit → IsOneUnit c :=
    fun h => h.isOneUnit _ (List.mem_singleton_self _)
  exact ⟨⟨⟨.char, "'\n'", by decide⟩, rfl, by decide, fun _ h => hfeed (hone h)⟩,
    ⟨⟨.char, "'😀'", by decide⟩, rfl, by decide, fun _ h => hpair (hone h)⟩⟩

end JavaSyntax.Literal
