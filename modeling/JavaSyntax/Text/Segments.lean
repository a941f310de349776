/-!
# Segments of a text

A text cut at every occurrence of a separator. `intercalate_cut` says that nothing is lost,
`not_mem_of_mem_cut` that no segment holds the separator, and `cut_intercalate` that cutting
undoes joining when no segment holds it.
-/

set_option autoImplicit false

namespace JavaSyntax.Text

/-- The pieces between the occurrences of `separator`; a text without it is one piece. -/
def cut (separator : Char) : List Char → List (List Char)
  | [] => [[]]
  | c :: rest =>
    if c = separator then [] :: cut separator rest
    else match cut separator rest with
      | [] => [[c]]
      | first :: others => (c :: first) :: others

/-- `cut` on strings. -/
def segments (separator : Char) (text : String) : List String :=
  (cut separator text.toList).map String.ofList

theorem cut_ne_nil (separator : Char) (cs : List Char) : cut separator cs ≠ [] := by
  cases cs with
  | nil => simp [cut]
  | cons c rest =>
    by_cases h : c = separator
    · simp [cut, h]
    · cases hr : cut separator rest <;> simp [cut, h, hr]

theorem cut_of_not_mem {separator : Char} {cs : List Char} (h : separator ∉ cs) :
    cut separator cs = [cs] := by
  induction cs with
  | nil => rfl
  | cons c rest ih =>
    simp only [List.mem_cons, not_or] at h
    simp [cut, Ne.symm h.1, ih h.2]

/-- A segment ends at the first separator. -/
theorem cut_append_separator {separator : Char} {cs rest : List Char} (h : separator ∉ cs) :
    cut separator (cs ++ separator :: rest) = cs :: cut separator rest := by
  induction cs with
  | nil => simp [cut]
  | cons c cs ih =>
    simp only [List.mem_cons, not_or] at h
    simp [cut, Ne.symm h.1, ih h.2]

/-- Text without a separator belongs to the first segment of what follows it. -/
theorem cut_append_of_not_mem {separator : Char} {cs rest first : List Char}
    {others : List (List Char)} (h : separator ∉ cs) (hrest : cut separator rest = first :: others) :
    cut separator (cs ++ rest) = (cs ++ first) :: others := by
  induction cs with
  | nil => exact hrest
  | cons c cs ih =>
    simp only [List.mem_cons, not_or] at h
    simp [cut, Ne.symm h.1, ih h.2]

/-- Joining the segments gives the text back. -/
theorem intercalate_cut (separator : Char) (cs : List Char) :
    [separator].intercalate (cut separator cs) = cs := by
  induction cs with
  | nil => simp [cut, List.intercalate]
  | cons c rest ih =>
    obtain ⟨first, others, hr⟩ := List.exists_cons_of_ne_nil (cut_ne_nil separator rest)
    by_cases h : c = separator
    · subst h
      rw [hr] at ih
      simp [cut, hr, List.intercalate] at ih ⊢
      exact ih
    · rw [hr] at ih
      cases others <;> simp_all [cut, List.intercalate, List.intersperse]

theorem not_mem_of_mem_cut {separator : Char} {cs segment : List Char}
    (h : segment ∈ cut separator cs) : separator ∉ segment := by
  induction cs generalizing segment with
  | nil => simp_all [cut]
  | cons c rest ih =>
    by_cases hc : c = separator
    · simp only [cut, hc, ↓reduceIte, List.mem_cons] at h
      rcases h with rfl | h
      · simp
      · exact ih h
    · cases hr : cut separator rest with
      | nil => exact absurd hr (cut_ne_nil separator rest)
      | cons first others =>
        simp only [cut, hc, ↓reduceIte, hr, List.mem_cons] at h
        rcases h with rfl | h
        · simp [Ne.symm hc, ih (hr ▸ List.mem_cons_self)]
        · exact ih (hr ▸ List.mem_cons_of_mem _ h)

/-- A segment holds no character that the text does not hold. -/
theorem mem_of_mem_cut {separator c : Char} {cs segment : List Char}
    (h : segment ∈ cut separator cs) (hc : c ∈ segment) : c ∈ cs := by
  induction cs generalizing segment with
  | nil => simp_all [cut]
  | cons first rest ih =>
    by_cases hf : first = separator
    · simp only [cut, hf, ↓reduceIte, List.mem_cons] at h
      rcases h with rfl | h
      · simp at hc
      · exact List.mem_cons_of_mem _ (ih h hc)
    · obtain ⟨head, others, hr⟩ := List.exists_cons_of_ne_nil (cut_ne_nil separator rest)
      simp only [cut, hf, ↓reduceIte, hr, List.mem_cons] at h
      rcases h with rfl | h
      · rcases List.mem_cons.1 hc with rfl | hc
        · exact List.mem_cons_self
        · exact List.mem_cons_of_mem _ (ih (hr ▸ List.mem_cons_self) hc)
      · exact List.mem_cons_of_mem _ (ih (hr ▸ List.mem_cons_of_mem _ h) hc)

/-- Cutting undoes joining when no segment holds the separator. -/
theorem cut_intercalate {separator : Char} {first : List Char} {others : List (List Char)}
    (h : ∀ segment ∈ first :: others, separator ∉ segment) :
    cut separator ([separator].intercalate (first :: others)) = first :: others := by
  induction others generalizing first with
  | nil =>
    simp [List.intercalate, List.intersperse]
    exact cut_of_not_mem (h first (by simp))
  | cons second others ih =>
    have hrest : [separator].intercalate (first :: second :: others)
        = first ++ separator :: [separator].intercalate (second :: others) := by
      simp [List.intercalate, List.intersperse]
    rw [hrest, cut_append_separator (h first (by simp)),
      ih (fun segment hs => h segment (List.mem_cons_of_mem _ hs))]

end JavaSyntax.Text
