import JavaSyntax.Text.Segments

/-!
# Lines of a text

A line ends at a line feed, and one carriage return right before that line feed belongs to the
line end too. A carriage return anywhere else is a character of its line. What follows the last
line feed is a line only if it is not empty, so the empty text has no lines.
-/

set_option autoImplicit false

namespace JavaSyntax.Text

/-- A line without the carriage return that ends it. -/
def chomp (line : List Char) : List Char :=
  if line.getLast? = some '\r' then line.dropLast else line

/-- The lines behind the segments between line feeds: every segment but the last was ended by
a line feed. -/
def linesOfSegments : List (List Char) → List (List Char)
  | [] => []
  | [last] => if last.isEmpty then [] else [last]
  | line :: next :: rest => chomp line :: linesOfSegments (next :: rest)

/-- The lines of a text. -/
def lines (text : String) : List String :=
  (linesOfSegments (cut '\n' text.toList)).map String.ofList

theorem lines_empty : lines "" = [] := by simp [lines, cut, linesOfSegments]

/-- No line holds a line feed. -/
theorem not_mem_of_mem_linesOfSegments {segments : List (List Char)} {line : List Char}
    (hs : ∀ segment ∈ segments, '\n' ∉ segment) (h : line ∈ linesOfSegments segments) :
    '\n' ∉ line := by
  fun_induction linesOfSegments segments with
  | case1 => simp at h
  | case2 last => simp at h
  | case3 last _ => exact hs _ (by simp_all)
  | case4 first next rest ih =>
    rcases List.mem_cons.1 h with rfl | h
    · unfold chomp
      split
      · exact fun hm => hs first (by simp) (List.dropLast_subset _ hm)
      · exact hs first (by simp)
    · exact ih (fun segment hm => hs segment (List.mem_cons_of_mem _ hm)) h

/-- A line holds no character that no segment holds. -/
theorem exists_mem_of_mem_linesOfSegments {segments : List (List Char)} {line : List Char}
    {c : Char} (h : line ∈ linesOfSegments segments) (hc : c ∈ line) :
    ∃ segment ∈ segments, c ∈ segment := by
  fun_induction linesOfSegments segments with
  | case1 => simp at h
  | case2 last => simp at h
  | case3 last _ => exact ⟨last, by simp, by simp_all⟩
  | case4 first next rest ih =>
    rcases List.mem_cons.1 h with rfl | h
    · refine ⟨first, List.mem_cons_self, ?_⟩
      unfold chomp at hc
      split at hc
      · exact List.dropLast_subset _ hc
      · exact hc
    · obtain ⟨segment, hs, hmem⟩ := ih h
      exact ⟨segment, List.mem_cons_of_mem _ hs, hmem⟩

/-- The characters of a line are characters of the text, but no line feeds. -/
theorem mem_of_mem_lines {text line : String} {c : Char} (h : line ∈ lines text)
    (hc : c ∈ line.toList) : c ∈ text.toList ∧ c ≠ '\n' := by
  obtain ⟨cs, hcs, rfl⟩ := List.mem_map.1 h
  rw [String.toList_ofList] at hc
  constructor
  · obtain ⟨segment, hs, hmem⟩ := exists_mem_of_mem_linesOfSegments hcs hc
    exact mem_of_mem_cut hs hmem
  · rintro rfl
    exact not_mem_of_mem_linesOfSegments (fun _ => not_mem_of_mem_cut) hcs hc

theorem newline_not_mem_of_mem_lines {text line : String} (h : line ∈ lines text) :
    '\n' ∉ line.toList :=
  fun hc => (mem_of_mem_lines h hc).2 rfl

end JavaSyntax.Text
