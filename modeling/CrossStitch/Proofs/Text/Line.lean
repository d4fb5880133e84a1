import CrossStitch.Text.Line

/-! Lines and texts. The lines of a text hold no line feed, and lines without one
come back from the text in which each is ended by a line feed. A carriage return
at the end of a line would be taken for part of the line's end. -/

namespace CrossStitch.Text

/-- A line that can be written down and read back. -/
def IsLine (line : List Char) : Prop :=
  '\n' ∉ line ∧ line.getLast? ≠ some '\r'

theorem endedLine_eq_reverse {line : List Char} (h : line.head? ≠ some '\r') :
    endedLine line = line.reverse := by
  unfold endedLine
  split
  · simp at h
  · rfl

/-- Reading goes on below a line feed. -/
theorem linesFrom_append (line : List Char) {text : List Char} (h : '\n' ∉ text)
    (rest : List Char) :
    linesFrom line (text ++ '\n' :: rest) =
      endedLine (text.reverse ++ line) :: linesFrom [] rest := by
  induction text generalizing line with
  | nil => simp [linesFrom]
  | cons c text ih =>
    have hc : c ≠ '\n' := fun e => h (e ▸ List.mem_cons_self)
    have ht : '\n' ∉ text := fun m => h (List.mem_cons_of_mem c m)
    simp [linesFrom, hc, ih (c :: line) ht]

theorem toList_unlines (lines : List String) :
    (unlines lines).toList = lines.flatMap fun line => line.toList ++ ['\n'] := by
  simp [unlines, String.toList_join, List.flatMap_map]

theorem unlines_append (first second : List String) :
    unlines (first ++ second) = unlines first ++ unlines second := by
  simp [unlines, String.join_append]

theorem linesFrom_unlines_append {lines : List String} (h : ∀ line ∈ lines, IsLine line.toList)
    (rest : List Char) :
    linesFrom [] ((unlines lines).toList ++ rest) = lines.map String.toList ++ linesFrom [] rest := by
  rw [toList_unlines]
  induction lines with
  | nil => rfl
  | cons line lines ih =>
    obtain ⟨hn, hr⟩ := h line List.mem_cons_self
    have hl := ih fun l hl => h l (List.mem_cons_of_mem line hl)
    rw [List.flatMap_cons, List.append_assoc, List.append_assoc, List.singleton_append,
      linesFrom_append [] hn, hl, List.append_nil, endedLine_eq_reverse (by simpa using hr),
      List.reverse_reverse, List.map_cons, List.cons_append]

theorem linesFrom_unlines {lines : List String} (h : ∀ line ∈ lines, IsLine line.toList) :
    linesFrom [] (unlines lines).toList = lines.map String.toList := by
  simpa [linesFrom] using linesFrom_unlines_append h []

/-- Lines come back from the start of a text. -/
theorem lines_unlines_append {ls : List String} (h : ∀ line ∈ ls, IsLine line.toList)
    (rest : String) : lines (unlines ls ++ rest) = ls ++ lines rest := by
  rw [lines, String.toList_append, linesFrom_unlines_append h, List.map_append, List.map_map]
  simp [Function.comp_def, lines]

/-- Lines come back from their text. -/
theorem lines_unlines {ls : List String} (h : ∀ line ∈ ls, IsLine line.toList) :
    lines (unlines ls) = ls := by
  rw [lines, linesFrom_unlines h, List.map_map]
  simp [Function.comp_def]

theorem not_mem_of_mem_linesFrom {line text : List Char} (hl : '\n' ∉ line) :
    ∀ l ∈ linesFrom line text, '\n' ∉ l := by
  induction text generalizing line with
  | nil =>
    intro l h
    rw [linesFrom] at h
    split at h
    · simp at h
    · simp_all
  | cons c rest ih =>
    intro l h
    rw [linesFrom] at h
    split at h
    next hc =>
      rcases List.mem_cons.mp h with rfl | h
      · unfold endedLine
        split <;> simp_all
      · exact ih (by simp) l h
    next hc =>
      exact ih (by simp [Ne.symm hc, hl]) l h

/-- No line of a text holds a line feed. -/
theorem not_mem_of_mem_lines {text line : String} (h : line ∈ lines text) : '\n' ∉ line.toList := by
  obtain ⟨l, hl, rfl⟩ := List.mem_map.mp h
  rw [String.toList_ofList]
  exact not_mem_of_mem_linesFrom (by simp) l hl

end CrossStitch.Text
