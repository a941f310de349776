import JavaSyntax.Emission.Tree
import JavaSyntax.Proofs.Writing.Emission

/-!
# Levels are restored

The inside of a block is written between an action that raises the level of the writer and one that
lowers it. What comes out is the document of the block, in which the inside is nested and the level
is that of the page throughout: raising a word and lowering it again leads back to it, also when it
has wrapped around in between.

A checked run goes on as long as the levels and margins it comes to fit in words, and these can be
told from the document and from how often the level is raised at one time. Behind what it writes the
level is the one that was raised, so there is always one to go back to.
-/

set_option autoImplicit false

namespace JavaSyntax

variable {bits : Nat}

/-! ## Levels and margins that fit -/

theorem fitsWord_iff {number : Nat} : fitsWord bits number = true ↔ number < 2 ^ bits := by
  rw [fitsWord, beq_iff_eq, BitVec.toNat_ofNat]
  exact ⟨fun h => h ▸ Nat.mod_lt _ (Nat.two_pow_pos bits), Nat.mod_eq_of_lt⟩

namespace WordWriter

/-- Whether a document that is nested this deep can be written without an overflow. -/
structure Fits (w : WordWriter bits) (depth : Nat) (d : Doc) : Prop where
  level : w.indentLevel.toNat + depth < 2 ^ bits
  margins : ∀ k, .margin k ∈ d → (w.indentLevel.toNat + k) * w.indentWidth.toNat < 2 ^ bits

theorem indentLevel_putPiece (w : WordWriter bits) (p : Piece) :
    (w.putPiece p).indentLevel = w.indentLevel := by
  cases p <;> rfl

theorem indentWidth_putPiece (w : WordWriter bits) (p : Piece) :
    (w.putPiece p).indentWidth = w.indentWidth := by
  cases p <;> rfl

@[simp] theorem indentLevel_put (w : WordWriter bits) (d : Doc) :
    (w.put d).indentLevel = w.indentLevel := by
  induction d generalizing w with
  | nil => rfl
  | cons p d ih => exact (ih _).trans (w.indentLevel_putPiece p)

@[simp] theorem indentWidth_put (w : WordWriter bits) (d : Doc) :
    (w.put d).indentWidth = w.indentWidth := by
  induction d generalizing w with
  | nil => rfl
  | cons p d ih => exact (ih _).trans (w.indentWidth_putPiece p)

theorem put_append (w : WordWriter bits) (c d : Doc) : w.put (c ++ d) = (w.put c).put d :=
  List.foldl_append

theorem fits_append_iff {w : WordWriter bits} {j k : Nat} {c d : Doc} :
    w.Fits (max j k) (c ++ d) ↔ w.Fits j c ∧ (w.put c).Fits k d := by
  constructor
  · rintro ⟨hlevel, hmargins⟩
    refine ⟨⟨by omega, fun i hi => hmargins i (List.mem_append_left d hi)⟩,
      ⟨by rw [indentLevel_put]; omega, fun i hi => ?_⟩⟩
    rw [indentLevel_put, indentWidth_put]
    exact hmargins i (List.mem_append_right c hi)
  · rintro ⟨hc, hd⟩
    have hlevel := hd.level
    have hmargins := hd.margins
    rw [indentLevel_put] at hlevel
    simp only [indentLevel_put, indentWidth_put] at hmargins
    have hboth := hc.level
    exact ⟨by omega, fun i hi =>
      (List.mem_append.1 hi).elim (hc.margins i) (hmargins i)⟩

theorem toNat_raised {w : WordWriter bits} (h : w.indentLevel.toNat + 1 < 2 ^ bits) :
    w.raised.indentLevel.toNat = w.indentLevel.toNat + 1 := by
  have hone : 1 % 2 ^ bits = 1 := Nat.mod_eq_of_lt (by omega)
  simp only [raised, BitVec.toNat_add, BitVec.ofNat_eq_ofNat, BitVec.toNat_ofNat, hone]
  exact Nat.mod_eq_of_lt h

theorem mem_nest {k : Nat} {d : Doc} :
    Piece.margin k ∈ Doc.nest d ↔ ∃ j, .margin j ∈ d ∧ k = j + 1 := by
  simp only [Doc.nest, List.mem_map]
  constructor
  · rintro ⟨p, hp, heq⟩
    cases p <;> cases heq
    exact ⟨_, hp, rfl⟩
  · rintro ⟨j, hj, rfl⟩
    exact ⟨.margin j, hj, rfl⟩

theorem fits_nest_iff {w : WordWriter bits} {depth : Nat} {d : Doc} :
    w.Fits (depth + 1) (Doc.nest d) ↔
      w.indentLevel.toNat + 1 < 2 ^ bits ∧ w.raised.Fits depth d := by
  constructor
  · rintro ⟨hlevel, hmargins⟩
    have hraise : w.indentLevel.toNat + 1 < 2 ^ bits := by omega
    refine ⟨hraise, ⟨by rw [toNat_raised hraise]; omega, fun k hk => ?_⟩⟩
    rw [toNat_raised hraise, Nat.add_assoc, Nat.add_comm 1]
    exact hmargins (k + 1) (mem_nest.2 ⟨k, hk, rfl⟩)
  · rintro ⟨hraise, hlevel, hmargins⟩
    rw [toNat_raised hraise] at hlevel
    refine ⟨by omega, fun k hk => ?_⟩
    obtain ⟨j, hj, rfl⟩ := mem_nest.1 hk
    have hmargin := hmargins j hj
    rw [toNat_raised hraise, Nat.add_assoc, Nat.add_comm 1] at hmargin
    exact hmargin

theorem putPiece_raised (w : WordWriter bits) (p : Piece) :
    w.raised.putPiece p = (w.putPiece p.nest).raised := by
  cases p with
  | margin k => simp [raised, putPiece, Piece.nest, Nat.add_assoc, Nat.add_comm 1]
  | text | newline | name => rfl

theorem lowered_put_raised (w : WordWriter bits) (d : Doc) :
    (w.raised.put d).lowered = w.put (Doc.nest d) := by
  induction d generalizing w with
  | nil =>
    change { w with indentLevel := w.indentLevel + 1 - 1 } = w
    rw [BitVec.add_sub_cancel]
  | cons p d ih =>
    change ((w.raised.putPiece p).put d).lowered = (w.putPiece p.nest).put (Doc.nest d)
    rw [putPiece_raised, ih]

end WordWriter

/-! ## What an action writes -/

/-- A run that has stopped at an overflow, and not where it lowers the level. -/
def Overflow.Stopped {α : Type} (x : Except Overflow α) : Prop :=
  x = .error .raise ∨ x = .error .margin

namespace Overflow

variable {α β : Type} {x : Except Overflow α}

/-- Nothing follows a stop. -/
theorem Stopped.bind (h : Stopped x) (f : α → Except Overflow β) : Stopped (x >>= f) := by
  obtain rfl | rfl := h
  · exact .inl rfl
  · exact .inr rfl

theorem Stopped.ne_ok (h : Stopped x) (a : α) : x ≠ .ok a := by
  obtain rfl | rfl := h <;> exact nofun

theorem Stopped.ne_lower (h : Stopped x) : x ≠ .error .lower := by
  obtain rfl | rfl := h <;> exact nofun

end Overflow

/-- The action writes the document, raising the level this often at one time, and leaves the level
as it was. If a result does not fit, a checked run stops, but never where it lowers the level. -/
structure Emission.Emits (m : Emission bits) (d : Doc) (depth : Nat) : Prop where
  wrapping : ∀ w, m.run .wrapping w = .ok (w.put d)
  checked : ∀ w : WordWriter bits, w.Fits depth d → m.run .checked w = .ok (w.put d)
  stops : ∀ w : WordWriter bits, ¬ w.Fits depth d → Overflow.Stopped (m.run .checked w)

namespace Emission

theorem check_bind_ok {α : Type} {fits : Bool} {reason : Overflow} {x : α} :
    (Arithmetic.checked.check fits reason >>= fun _ => Except.ok x)
      = if fits = true then .ok x else .error reason := by
  cases fits <;> rfl

theorem run_piece_checked {w : WordWriter bits} {p : Piece} :
    (piece p).run .checked w
      = if w.fitsPiece p = true then .ok (w.putPiece p) else .error .margin :=
  check_bind_ok

theorem run_raise_checked {w : WordWriter bits} :
    raise.run .checked w
      = if w.indentLevel.toNat + 1 < 2 ^ bits then .ok w.raised else .error .raise := by
  change (Arithmetic.checked.check _ .raise >>= fun _ => Except.ok w.raised) = _
  simp only [check_bind_ok, fitsWord_iff]

theorem run_lower_checked {w : WordWriter bits} :
    lower.run .checked w
      = if 0 < w.indentLevel.toNat then .ok w.lowered else .error .lower := by
  change (Arithmetic.checked.check _ .lower >>= fun _ => Except.ok w.lowered) = _
  simp only [check_bind_ok, decide_eq_true_eq]

theorem fits_singleton_iff {w : WordWriter bits} {p : Piece} :
    w.Fits 0 [p] ↔ w.fitsPiece p = true := by
  constructor
  · intro h
    cases p with
    | margin k => exact fitsWord_iff.2 (h.margins k (by simp))
    | text | newline | name => rfl
  · intro h
    refine ⟨w.indentLevel.isLt, fun k hk => ?_⟩
    obtain rfl := List.mem_singleton.1 hk
    exact fitsWord_iff.1 h

theorem emits_skip : Emits (skip : Emission bits) [] 0 where
  wrapping w := rfl
  checked w _ := rfl
  stops w h := absurd ⟨w.indentLevel.isLt, fun k hk => by cases hk⟩ h

theorem emits_piece (p : Piece) : Emits (piece p : Emission bits) [p] 0 where
  wrapping w := rfl
  checked w h := by
    rw [run_piece_checked, if_pos (fits_singleton_iff.1 h)]
    rfl
  stops w h := by
    rw [run_piece_checked, if_neg (fun hfits => h (fits_singleton_iff.2 hfits))]
    exact .inr rfl

theorem Emits.append {m n : Emission bits} {c d : Doc} {j k : Nat} (hm : m.Emits c j)
    (hn : n.Emits d k) : Emits (m ++ n) (c ++ d) (max j k) where
  wrapping w := by
    change m.run .wrapping w >>= n.run .wrapping = _
    rw [hm.wrapping, w.put_append]
    exact hn.wrapping _
  checked w h := by
    obtain ⟨hc, hd⟩ := WordWriter.fits_append_iff.1 h
    change m.run .checked w >>= n.run .checked = _
    rw [hm.checked w hc, w.put_append]
    exact hn.checked _ hd
  stops w h := by
    change Overflow.Stopped (m.run .checked w >>= n.run .checked)
    by_cases hc : w.Fits j c
    · have hd : ¬ (w.put c).Fits k d := fun hd => h (WordWriter.fits_append_iff.2 ⟨hc, hd⟩)
      rw [hm.checked w hc]
      exact hn.stops _ hd
    · exact (hm.stops w hc).bind _

theorem Emits.nested {m : Emission bits} {d : Doc} {depth : Nat} (h : m.Emits d depth) :
    Emits (nested m) (Doc.nest d) (depth + 1) where
  wrapping w := by
    change (m.run .wrapping w.raised >>= lower.run .wrapping) = _
    rw [h.wrapping, ← w.lowered_put_raised]
    rfl
  checked w hfits := by
    obtain ⟨hraise, hinner⟩ := WordWriter.fits_nest_iff.1 hfits
    have hlevel : 0 < (w.raised.put d).indentLevel.toNat := by
      rw [WordWriter.indentLevel_put, WordWriter.toNat_raised hraise]
      exact Nat.succ_pos _
    change (raise.run .checked w >>= m.run .checked) >>= lower.run .checked = _
    rw [run_raise_checked, if_pos hraise]
    change m.run .checked w.raised >>= lower.run .checked = _
    rw [h.checked _ hinner, ← w.lowered_put_raised]
    exact run_lower_checked.trans (if_pos hlevel)
  stops w hfits := by
    change Overflow.Stopped ((raise.run .checked w >>= m.run .checked) >>= lower.run .checked)
    rw [run_raise_checked]
    by_cases hraise : w.indentLevel.toNat + 1 < 2 ^ bits
    · have hinner : ¬ w.raised.Fits depth d := fun hinner =>
        hfits (WordWriter.fits_nest_iff.2 ⟨hraise, hinner⟩)
      rw [if_pos hraise]
      exact (h.stops w.raised hinner).bind _
    · rw [if_neg hraise]
      exact .inl rfl

/-! ## Compositions -/

/-- The action writes the document, whatever the level is. -/
def Lays (m : Emission bits) (d : Doc) : Prop := ∃ depth, m.Emits d depth

variable {m n : Emission bits} {c d : Doc}

theorem lays_skip : Lays (skip : Emission bits) [] := ⟨0, emits_skip⟩

theorem Lays.append : m.Lays c → n.Lays d → Lays (m ++ n) (c ++ d)
  | ⟨_, hm⟩, ⟨_, hn⟩ => ⟨_, hm.append hn⟩

theorem Lays.nested : m.Lays d → Lays (nested m) (Doc.nest d)
  | ⟨_, h⟩ => ⟨_, h.nested⟩

theorem lays_put (d : Doc) : Lays (put d : Emission bits) d := by
  induction d with
  | nil => exact lays_skip
  | cons p d ih => exact Lays.append ⟨0, emits_piece p⟩ ih

theorem lays_text (s : String) : Lays (text s : Emission bits) (Doc.ofText s) := lays_put _

theorem Lays.line (h : m.Lays d) : Lays (line m) (Doc.line d) :=
  ((lays_put [.margin 0]).append h).append (lays_put [.newline])

theorem Lays.parens (h : m.Lays d) : Lays (parens m) (Doc.parens d) :=
  ((lays_text "(").append h).append (lays_text ")")

theorem Lays.braced (hm : m.Lays c) (hn : n.Lays d) : Lays (braced m n) (Doc.braced c d) :=
  ((hm.append (lays_text "\x7b")).line.append hn.nested).append (lays_text "\x7d").line

theorem Lays.separated (hm : m.Lays c) {ms : List (Emission bits)} {ds : List Doc}
    (h : List.Forall₂ Lays ms ds) : Lays (separated m ms) (c.intercalate ds) := by
  induction h with
  | nil => exact lays_skip
  | cons hn hms ih =>
    cases hms with
    | nil => simpa [Emission.separated] using hn
    | cons hk hks =>
      rw [List.intercalate_cons_cons]
      exact (hn.append hm).append ih

end Emission

end JavaSyntax
