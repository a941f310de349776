import JavaSyntax.Proofs.Source.Outline

/-!
# Rules of the reader

What the reader of outlines yields, as rules without fuel: one for each way in which a text can go
on. An operand is read together with what is selected from it, so its rules say what it yields if
the selection behind it yields that.
-/

set_option autoImplicit false

namespace JavaSyntax

namespace Reader

/-! ## What readers yield -/

section Yields

variable {α β : Type} {f : Nat → Option α} {a b : α}

theorem Yields.unique (ha : Yields f a) (hb : Yields f b) : a = b := by
  obtain ⟨k, hk⟩ := ha
  obtain ⟨l, hl⟩ := hb
  have h := (hk (max k l) (Nat.le_max_left k l)).symm.trans (hl (max k l) (Nat.le_max_right k l))
  exact Option.some.inj h

theorem yields_some (a : α) : Yields (fun _ => some a) a := ⟨0, fun _ _ => rfl⟩

/-- A reader that spends one unit of fuel on its own. -/
theorem Yields.spend {g : Nat → Option α} (h : Yields f a) (hg : ∀ n, g (n + 1) = f n) :
    Yields g a := by
  obtain ⟨k, hk⟩ := h
  refine ⟨k + 1, fun n hn => ?_⟩
  obtain ⟨m, rfl⟩ : ∃ m, n = m + 1 := ⟨n - 1, by omega⟩
  rw [hg, hk m (by omega)]

/-- Two readers, one after the other. -/
theorem Yields.bind {g : Nat → α → Option β} {b : β} (hf : Yields f a)
    (hg : Yields (fun n => g n a) b) : Yields (fun n => (f n).bind (g n)) b := by
  obtain ⟨k, hk⟩ := hf
  obtain ⟨l, hl⟩ := hg
  refine ⟨max k l, fun n hn => ?_⟩
  change (f n).bind (g n) = some b
  rw [hk n (by omega), Option.bind_some]
  exact hl n (by omega)

end Yields

/-! ## Where texts end -/

/-- Whether a text goes on with something that cannot belong to a word or a call. -/
def EndsWord (rest : List Char) : Prop :=
  ∀ c ∈ rest.head?, Identifier.isPart c = false ∧ c ≠ '('

/-- Whether a text goes on with something that cannot belong to an operand. -/
def EndsOperand (rest : List Char) : Prop := EndsWord rest ∧ ∀ c ∈ rest.head?, c ≠ '.'

/-- Whether a text goes on with something that cannot belong to an expression. -/
def EndsExpr (rest : List Char) : Prop := EndsOperand rest ∧ ∀ c ∈ rest.head?, c ≠ ' '

theorem endsExpr_nil : EndsExpr [] := by simp [EndsExpr, EndsOperand, EndsWord]

theorem endsExpr_closing (rest : List Char) : EndsExpr (')' :: rest) := by
  simp [EndsExpr, EndsOperand, EndsWord]; decide

theorem endsExpr_comma (rest : List Char) : EndsExpr (',' :: rest) := by
  simp [EndsExpr, EndsOperand, EndsWord]; decide

/-- The blank before an operator ends the operand before it. -/
theorem endsOperand_blank (rest : List Char) : EndsOperand (' ' :: rest) := by
  simp [EndsOperand, EndsWord]; decide

theorem endsWord_dot (rest : List Char) : EndsWord ('.' :: rest) := by
  simp [EndsWord]; decide

/-! ## Rules of the reader -/

variable {cs rest : List Char} {o left : Outline} {r : Outline × List Char}

theorem yields_expr (hleft : Yields (operand · cs) (left, rest))
    (h : Yields (operation · left rest) r) : Yields (expr · cs) r :=
  (hleft.bind (g := fun n p => operation n p.1 p.2) h).spend fun _ => rfl

theorem infix?_eq_none (h : EndsExpr rest) : infix? rest = none := by
  cases rest with
  | nil => rfl
  | cons c rest =>
    have hc : c ≠ ' ' := h.2 c rfl
    simp [infix?, hc]

theorem yields_operation_end (h : EndsExpr rest) : Yields (operation · left rest) (left, rest) := by
  refine (yields_some (left, rest)).spend fun n => ?_
  rw [operation, infix?_eq_none h]

theorem yields_assignment (left : Outline) {source : Outline} (h : Yields (expr · cs) (source, rest)) :
    Yields (operation · left (' ' :: '=' :: ' ' :: cs)) (.assignment left source, rest) :=
  (h.bind (yields_some (Outline.assignment left source, rest))).spend fun _ => rfl

theorem yields_comparison (operator : Comparison) (left : Outline) {right : Outline}
    (h : Yields (operand · cs) (right, rest)) :
    Yields (operation · left (' ' :: operator.symbol.toList ++ ' ' :: cs))
      (.comparison operator left right, rest) := by
  cases operator
  all_goals exact (h.bind (yields_some (Outline.comparison _ left right, rest))).spend fun _ => rfl

theorem yields_ternary (left : Outline) {whenTrue whenFalse : Outline} {cs' : List Char}
    (ht : Yields (operand · cs) (whenTrue, ' ' :: ':' :: ' ' :: cs'))
    (hf : Yields (operand · cs') (whenFalse, rest)) :
    Yields (operation · left (' ' :: '?' :: ' ' :: cs)) (.ternary left whenTrue whenFalse, rest) := by
  refine (ht.bind (b := (Outline.ternary left whenTrue whenFalse, rest)) ?_).spend fun _ => rfl
  exact hf.bind (yields_some (Outline.ternary left whenTrue whenFalse, rest))

theorem yields_operand_brackets (h : Yields (expr · cs) (o, ')' :: rest))
    (hrest : Yields (selection · o rest) r) : Yields (operand · ('(' :: cs)) r :=
  (h.bind (b := r) hrest).spend fun _ => rfl

theorem yields_selection_end (h : EndsOperand rest) : Yields (selection · o rest) (o, rest) := by
  refine (yields_some (o, rest)).spend fun n => ?_
  rw [selection]
  rintro cs rfl
  exact h.2 '.' rfl rfl

theorem yields_selection (h : Yields (member · (some o) cs) r) :
    Yields (selection · o ('.' :: cs)) r :=
  h.spend fun _ => rfl

/-! ### Strings and words -/

theorem yields_string {text : String} (h : Yields (selection · (.string text) rest) r) :
    Yields (operand · ((Text.quoted text).toList ++ rest)) r := by
  have hquoted : (Text.quoted text).toList ++ rest
      = '"' :: (Text.Quoted.encode text.toList ++ '"' :: rest) := by
    simp [Text.quoted]
  rw [hquoted]
  refine h.spend fun n => ?_
  rw [operand, Text.Quoted.decode_encode]
  change selection n (.string (String.ofList text.toList)) rest = _
  rw [String.ofList_toList]

/-- Whether a text is read as one word. -/
def IsWord (word : String) : Prop :=
  word.isEmpty = false ∧ ∀ c ∈ word.toList, Identifier.isPart c = true

theorem isWord_identifier (identifier : Identifier) : IsWord identifier.text :=
  ⟨by simpa using identifier.text_ne_empty, fun _ => Identifier.isPart_of_mem⟩

variable {word : String} {receiver : Option Outline}

/-- A word is read to its end. -/
theorem IsWord.split (hword : IsWord word) (hrest : ∀ c ∈ rest.head?, Identifier.isPart c = false) :
    String.ofList ((word.toList ++ rest).takeWhile Identifier.isPart) = word ∧
      (word.toList ++ rest).dropWhile Identifier.isPart = rest := by
  have htake : rest.takeWhile Identifier.isPart = [] := by
    cases rest with
    | nil => rfl
    | cons c rest => rw [List.takeWhile_cons, hrest c rfl]; rfl
  have hdrop : rest.dropWhile Identifier.isPart = rest := by
    cases rest with
    | nil => rfl
    | cons c rest => rw [List.dropWhile_cons, hrest c rfl]; rfl
  rw [List.takeWhile_append_of_pos hword.2, List.dropWhile_append_of_pos hword.2, htake, hdrop,
    List.append_nil, String.ofList_toList]
  exact ⟨rfl, rfl⟩

theorem yields_operand_word (hword : IsWord word)
    (h : Yields (member · none (word.toList ++ rest)) r) :
    Yields (operand · (word.toList ++ rest)) r := by
  refine h.spend fun n => ?_
  obtain ⟨c, cs, hcs⟩ : ∃ c cs, word.toList = c :: cs :=
    List.exists_cons_of_ne_nil (by simpa using hword.1)
  have hc : Identifier.isPart c = true := hword.2 c (by simp [hcs])
  rw [hcs, List.cons_append, operand]
  -- A word begins neither with a bracket nor with a quotation mark.
  all_goals
    rintro cs' hcons
    rw [(List.cons.inj hcons).1] at hc
    exact absurd hc (by decide)

theorem yields_member (hword : IsWord word) (hrest : EndsWord rest)
    (h : Yields (selection · (.ofWord receiver word) rest) r) :
    Yields (member · receiver (word.toList ++ rest)) r := by
  obtain ⟨htake, hdrop⟩ := hword.split fun c hc => (hrest c hc).1
  refine h.spend fun n => ?_
  simp only [member, htake, hdrop, hword.1, Bool.false_eq_true, if_false]
  split
  · next cs => exact absurd rfl (hrest '(' rfl).2
  · rfl

theorem yields_member_call {as : List Outline} (hword : IsWord word)
    (has : Yields (arguments · cs) (as, rest))
    (h : Yields (selection · (.call receiver word as) rest) r) :
    Yields (member · receiver (word.toList ++ '(' :: cs)) r := by
  have hopening : ∀ c ∈ ('(' :: cs).head?, Identifier.isPart c = false := by simp; decide
  obtain ⟨htake, hdrop⟩ := hword.split hopening
  refine (has.bind (g := fun n p => selection n (.call receiver word p.1) p.2) h).spend
    fun n => ?_
  simp only [member, htake, hdrop, hword.1, Bool.false_eq_true, if_false]
  rfl

/-! ### Arguments -/

theorem yields_arguments_nil : Yields (arguments · (')' :: rest)) ([], rest) :=
  (yields_some ([], rest)).spend fun _ => rfl

theorem yields_further_nil : Yields (further · (')' :: rest)) ([], rest) :=
  (yields_some ([], rest)).spend fun _ => rfl

/-- No expression begins with a closing bracket. -/
theorem expr_closing (n : Nat) (rest : List Char) : expr n (')' :: rest) = none := by
  cases n with
  | zero => rfl
  | succ n =>
    cases n with
    | zero => rfl
    | succ n => cases n <;> rfl

variable {as : List Outline} {cs' : List Char}

/-- An argument, and what follows it. -/
theorem yields_argument (h : Yields (expr · cs) (o, cs')) (has : Yields (further · cs') (as, rest)) :
    Yields (fun n => (expr n cs).bind fun p =>
      (further n p.2).bind fun q => some (p.1 :: q.1, q.2)) (o :: as, rest) :=
  h.bind (has.bind (yields_some (o :: as, rest)))

theorem yields_arguments_cons (h : Yields (expr · cs) (o, cs'))
    (has : Yields (further · cs') (as, rest)) : Yields (arguments · cs) (o :: as, rest) := by
  refine (yields_argument h has).spend fun n => ?_
  rw [arguments]
  · rfl
  · rintro rest rfl
    obtain ⟨k, hk⟩ := h
    exact nomatch (expr_closing k rest).symm.trans (hk k (Nat.le_refl k))

theorem yields_further_cons (h : Yields (expr · cs) (o, cs'))
    (has : Yields (further · cs') (as, rest)) :
    Yields (further · (',' :: ' ' :: cs)) (o :: as, rest) :=
  (yields_argument h has).spend fun _ => rfl

end Reader

end JavaSyntax
