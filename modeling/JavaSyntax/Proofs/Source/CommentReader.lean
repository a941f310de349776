import JavaSyntax.Proofs.Source.Comments
import JavaSyntax.Proofs.Source.Strings

/-!
# Reading comments

A reader of source text resolves the escapes of code units before it looks for the end of a comment,
so a comment ends at a star and a slash of either spelling. What this reader makes of a text is what
it makes of the parts of it, if these are kept apart by characters that cannot stand in an escape
and are neither a star nor a slash. Spaces and line feeds are such characters, and they stand around
the text on every line of a written comment.
-/

set_option autoImplicit false

namespace JavaSyntax

namespace Text

/-! ## Escapes beside other characters -/

theorem resolveUnits_escape {cs : List Char} (h : cs.head? = some 'u') :
    resolveUnits false ('\\' :: cs)
      = (hexUnit? (cs.dropWhile (· == 'u'))).bind fun (unit, rest) =>
          (resolveUnits false rest).map (unit :: ·) := by
  rw [resolveUnits, if_pos ⟨rfl, rfl, h⟩]
  split
  · next hunit => rw [hunit, Option.bind_none]
  · next unit rest hunit => rw [hunit, Option.bind_some]

/-- A character that is no digit cuts an escape off. -/
theorem hexUnit?_append_cons {c : Char} (hc : hexDigit? c = none) (cs rest : List Char) :
    hexUnit? (cs ++ c :: rest)
      = (hexUnit? cs).map fun (unit, tail) => (unit, tail ++ c :: rest) := by
  obtain _ | ⟨a, _ | ⟨b, _ | ⟨d, _ | ⟨e, tail⟩⟩⟩⟩ := cs
  case cons.cons.cons.cons => simp [hexUnit?, Option.map_bind]
  all_goals rcases rest with _ | ⟨f, _ | ⟨g, _ | ⟨h, rest⟩⟩⟩ <;> simp [hexUnit?, hc]

/-- No escape goes on over a character that cannot stand in one, so what is before the character and
what follows it are resolved by themselves. -/
theorem resolveUnits_append_cons {c : Char} (hslash : c ≠ '\\') (hu : c ≠ 'u')
    (hdigit : hexDigit? c = none) (odd : Bool) (cs rest : List Char) :
    resolveUnits odd (cs ++ c :: rest)
      = (resolveUnits odd cs).bind fun us =>
          (resolveUnits false rest).map (us ++ unitsOfChar c ++ ·) := by
  have hdrop : ∀ ds : List Char, (ds ++ c :: rest).dropWhile (· == 'u')
      = ds.dropWhile (· == 'u') ++ c :: rest := by
    intro ds
    rw [List.dropWhile_append]
    split
    · next hempty => simp [List.isEmpty_iff.1 hempty, hu]
    · rfl
  fun_induction resolveUnits odd cs with
  | case1 odd =>
    have hodd : (c == '\\' && !odd) = false := by simp [hslash]
    rw [List.nil_append, resolveUnits_cons (by simp [hslash]), hodd]
    rfl
  | case2 odd d cs hescape hunit =>
    obtain ⟨rfl, rfl, hhead⟩ := hescape
    rw [List.cons_append, resolveUnits_escape (by simp [hhead]), hdrop, hexUnit?_append_cons hdigit,
      hunit]
    rfl
  | case3 odd d cs hescape unit tail hunit ih =>
    obtain ⟨rfl, rfl, hhead⟩ := hescape
    rw [List.cons_append, resolveUnits_escape (by simp [hhead]), hdrop, hexUnit?_append_cons hdigit,
      hunit]
    simp [ih, Option.map_bind, Option.bind_map, Function.comp_def]
  | case4 odd d cs hplain ih =>
    have hnext : ¬ (d = '\\' ∧ odd = false ∧ (cs ++ c :: rest).head? = some 'u') := by
      rintro ⟨hd, hodd, hhead⟩
      rw [List.head?_append] at hhead
      cases hcs : cs.head? with
      | none => simp [hcs, hu] at hhead
      | some e => exact hplain ⟨hd, hodd, by simpa [hcs] using hhead⟩
    rw [List.cons_append, resolveUnits_cons hnext, ih]
    simp [Option.map_bind, Option.bind_map, Function.comp_def]

/-- Without a backslash there are no escapes. -/
theorem inert_of_not_mem {cs : List Char} (h : '\\' ∉ cs) : Inert false cs := by
  induction cs with
  | nil => exact ⟨by simp, rfl⟩
  | cons c cs ih =>
    rw [List.mem_cons, not_or] at h
    exact (inert_singleton (Ne.symm h.1)).append (ih h.2)

theorem Inert.resolveUnits_eq_some {cs : List Char} (h : Inert false cs) :
    resolveUnits false cs = some (cs.flatMap unitsOfChar) := by
  have happend := h.resolveUnits_append []
  rw [List.append_nil, resolveUnits] at happend
  simpa using happend

/-! ## The end of a comment -/

/-- The code units behind the first star that has a slash behind it, and behind that slash. -/
def afterEnd : List Nat → Option (List Nat)
  | [] => none
  | u :: us => if u = '*'.toNat ∧ us.head? = some '/'.toNat then some us.tail else afterEnd us

/-- The code units that follow the comment at the beginning of a source text, for a reader that
resolves the escapes in the text first. -/
def readComment (cs : List Char) : Option (List Nat) :=
  match resolveUnits false cs with
  | some (u :: v :: us) => if u = '/'.toNat ∧ v = '*'.toNat then afterEnd us else none
  | _ => none

/-- Code units among which no comment ends: no slash is right behind a star. -/
def UnendedUnits (us : List Nat) : Prop :=
  us.IsChain fun u v => u = '*'.toNat → v ≠ '/'.toNat

/-- The reader stops at an end of a comment if and only if there is none before it. -/
theorem afterEnd_append_eq_some_iff {us rest : List Nat} :
    afterEnd (us ++ '*'.toNat :: '/'.toNat :: rest) = some rest ↔ UnendedUnits us := by
  induction us with
  | nil => simp [afterEnd, UnendedUnits]
  | cons u us ih =>
    rw [UnendedUnits, List.isChain_cons, List.cons_append, afterEnd]
    split
    · next hend =>
      obtain ⟨rfl, hhead⟩ := hend
      cases us with
      | nil => exact absurd hhead (by simp)
      | cons v us =>
        obtain rfl : v = '/'.toNat := by simpa using hhead
        -- The reader is before the end it should stop at, so more than `rest` is left.
        have hlonger : us ++ '*'.toNat :: '/'.toNat :: rest ≠ rest := by
          intro heq
          have hlength := congrArg List.length heq
          simp only [List.length_append, List.length_cons] at hlength
          omega
        rw [List.cons_append, List.tail_cons, Option.some.injEq]
        exact ⟨fun h => absurd h hlonger, fun h => absurd rfl (h.1 _ rfl rfl)⟩
    · next hnext =>
      have hchain : ∀ v ∈ us.head?, u = '*'.toNat → v ≠ '/'.toNat := by
        rintro v hv rfl rfl
        exact hnext ⟨rfl, by simp [List.head?_append, Option.mem_def.1 hv]⟩
      rw [ih]
      exact ⟨fun h => ⟨hchain, h⟩, And.right⟩

theorem unendedUnits_append_cons {n : Nat} (hstar : n ≠ '*'.toNat) (hslash : n ≠ '/'.toNat)
    {us vs : List Nat} : UnendedUnits (us ++ n :: vs) ↔ UnendedUnits us ∧ UnendedUnits vs := by
  simp only [UnendedUnits, List.isChain_append, List.isChain_cons]
  constructor
  · rintro ⟨hus, ⟨-, hvs⟩, -⟩
    exact ⟨hus, hvs⟩
  · rintro ⟨hus, hvs⟩
    refine ⟨hus, ⟨fun v _ h => absurd h hstar, hvs⟩, fun u _ v hv _ => ?_⟩
    obtain rfl : n = v := by simpa using hv
    exact hslash

/-- A unit that is no surrogate is a character by itself. -/
theorem toNat_eq_of_mem_unitsOfChar {c : Char} {unit : Nat} (hunit : unit < 0xD800)
    (h : unit ∈ unitsOfChar c) : c.toNat = unit := by
  unfold unitsOfChar at h
  split at h
  · exact (List.mem_singleton.1 h).symm
  · simp only [List.mem_cons, List.not_mem_nil, or_false] at h
    omega

theorem unitsOfChar_ne_nil (c : Char) : unitsOfChar c ≠ [] := by
  unfold unitsOfChar
  split <;> simp

theorem unendedUnits_unitsOfChar (c : Char) : UnendedUnits (unitsOfChar c) := by
  unfold unitsOfChar
  split
  · exact List.isChain_singleton _
  · have hstar : 0xD800 + (c.toNat - 0x10000) / 0x400 ≠ '*'.toNat := by
      have hcode : '*'.toNat = 42 := rfl
      omega
    exact List.isChain_pair.2 fun h => absurd h hstar

/-- Characters among which no comment ends are no other characters as code units. -/
theorem unendedUnits_flatMap {cs : List Char} (h : Comment.Unended cs) :
    UnendedUnits (cs.flatMap unitsOfChar) := by
  induction cs with
  | nil => exact List.isChain_nil
  | cons c cs ih =>
    obtain ⟨hnext, hcs⟩ := List.isChain_cons.1 h
    rw [List.flatMap_cons]
    refine List.isChain_append.2 ⟨unendedUnits_unitsOfChar c, ih hcs, ?_⟩
    rintro _ hlast _ hhead rfl rfl
    have hstar : c = '*' :=
      Char.toNat_inj.1 (toNat_eq_of_mem_unitsOfChar (by decide) (List.mem_of_getLast? hlast))
    cases cs with
    | nil => cases hhead
    | cons d cs =>
      have hmem : '/'.toNat ∈ unitsOfChar d := by
        rw [List.flatMap_cons, List.head?_append_of_ne_nil _ (unitsOfChar_ne_nil d)] at hhead
        exact List.mem_of_head? hhead
      have hslash : d = '/' := Char.toNat_inj.1 (toNat_eq_of_mem_unitsOfChar (by decide) hmem)
      exact hnext d rfl hstar hslash

end Text

namespace Comment

/-! ## Text inside of comments -/

/-- Text that stays inside of a comment for a reader that resolves escapes first: the escapes in it
are complete, and no comment ends in what they resolve to. -/
def Contained (cs : List Char) : Prop :=
  ∃ us, Text.resolveUnits false cs = some us ∧ Text.UnendedUnits us

theorem contained_iff_of_resolveUnits {cs : List Char} {us : List Nat}
    (h : Text.resolveUnits false cs = some us) : Contained cs ↔ Text.UnendedUnits us := by
  simp [Contained, h]

/-- Without a backslash, text is read as it stands. -/
theorem Unended.contained {cs : List Char} (h : Unended cs) (hmem : '\\' ∉ cs) :
    Contained cs := by
  have hinert : Text.Inert false cs := Text.inert_of_not_mem hmem
  exact ⟨_, hinert.resolveUnits_eq_some, Text.unendedUnits_flatMap h⟩

/-- The characters between the parts of a written comment. -/
def IsGap (c : Char) : Prop := c = ' ' ∨ c = '\n'

theorem IsGap.ne_star {c : Char} (hc : IsGap c) : c.toNat ≠ '*'.toNat := by
  rcases hc with rfl | rfl <;> decide

theorem IsGap.ne_slash {c : Char} (hc : IsGap c) : c.toNat ≠ '/'.toNat := by
  rcases hc with rfl | rfl <;> decide

theorem IsGap.resolveUnits_append {c : Char} (hc : IsGap c) (cs rest : List Char) :
    Text.resolveUnits false (cs ++ c :: rest)
      = (Text.resolveUnits false cs).bind fun us =>
          (Text.resolveUnits false rest).map fun vs => us ++ c.toNat :: vs := by
  have hunit : Text.unitsOfChar c = [c.toNat] := by rcases hc with rfl | rfl <;> rfl
  rw [Text.resolveUnits_append_cons (by rcases hc with rfl | rfl <;> decide)
    (by rcases hc with rfl | rfl <;> decide) (by rcases hc with rfl | rfl <;> rfl), hunit]
  simp

theorem contained_append_gap {c : Char} (hc : IsGap c) {cs ds : List Char} :
    Contained (cs ++ c :: ds) ↔ Contained cs ∧ Contained ds := by
  simp only [Contained, hc.resolveUnits_append]
  constructor
  · rintro ⟨_, hresolve, hunended⟩
    obtain ⟨us, hus, hresolve⟩ := Option.bind_eq_some_iff.1 hresolve
    obtain ⟨vs, hvs, rfl⟩ := Option.map_eq_some_iff.1 hresolve
    rw [Text.unendedUnits_append_cons hc.ne_star hc.ne_slash] at hunended
    exact ⟨⟨us, hus, hunended.1⟩, vs, hvs, hunended.2⟩
  · rintro ⟨⟨us, hus, hus'⟩, vs, hvs, hvs'⟩
    exact ⟨us ++ c.toNat :: vs, by rw [hus, hvs]; rfl,
      (Text.unendedUnits_append_cons hc.ne_star hc.ne_slash).2 ⟨hus', hvs'⟩⟩

theorem contained_gap_cons {c : Char} (hc : IsGap c) {cs : List Char} :
    Contained (c :: cs) ↔ Contained cs := by
  have happend : Contained ([] ++ c :: cs) ↔ Contained [] ∧ Contained cs := contained_append_gap hc
  exact happend.trans (and_iff_right (Unended.contained List.isChain_nil (by simp)))

theorem contained_replicate_append (n : Nat) {cs : List Char} :
    Contained (List.replicate n ' ' ++ cs) ↔ Contained cs := by
  induction n with
  | zero => rfl
  | succ n ih => rw [List.replicate_succ, List.cons_append, contained_gap_cons (.inl rfl), ih]

/-- A reader that begins at an opening stops at an end behind a gap if and only if the text
between them is contained. -/
theorem readComment_eq_some_iff {c : Char} (hc : IsGap c) {cs rest : List Char} {after : List Nat}
    (hrest : Text.resolveUnits false rest = some after) :
    Text.readComment (['/', '*'] ++ (cs ++ [c] ++ ['*', '/']) ++ rest) = some after
      ↔ Contained cs := by
  have hopening : Text.Inert false ['/', '*'] := Text.inert_of_not_mem (by decide)
  have hend : Text.resolveUnits false (['*', '/'] ++ rest)
      = some ('*'.toNat :: '/'.toNat :: after) := by
    rw [(Text.inert_of_not_mem (by decide)).resolveUnits_append, hrest]
    rfl
  have hsource : Text.resolveUnits false (['/', '*'] ++ (cs ++ [c] ++ ['*', '/']) ++ rest)
      = (Text.resolveUnits false cs).map fun us =>
          '/'.toNat :: '*'.toNat :: (us ++ [c.toNat] ++ '*'.toNat :: '/'.toNat :: after) := by
    have hsplit : ['/', '*'] ++ (cs ++ [c] ++ ['*', '/']) ++ rest
        = ['/', '*'] ++ (cs ++ c :: (['*', '/'] ++ rest)) := by simp
    rw [hsplit, hopening.resolveUnits_append, hc.resolveUnits_append, hend]
    cases Text.resolveUnits false cs <;> simp [Text.unitsOfChar]
  rw [Text.readComment, hsource]
  cases hcs : Text.resolveUnits false cs with
  | none =>
    refine ⟨fun h => absurd h (by simp), ?_⟩
    rintro ⟨us, hus, -⟩
    cases hcs.symm.trans hus
  | some us =>
    have hnil : Text.UnendedUnits [] := List.isChain_nil
    rw [contained_iff_of_resolveUnits hcs, Option.map_some]
    dsimp only
    rw [if_pos ⟨rfl, rfl⟩, Text.afterEnd_append_eq_some_iff,
      Text.unendedUnits_append_cons hc.ne_star hc.ne_slash, and_iff_left hnil]

end Comment

end JavaSyntax
