import CrossStitch.Proofs.Render.Extent
import CrossStitch.Proofs.Render.Row
import CrossStitch.Proofs.Text.Line
import CrossStitch.Proofs.Text.Trim
import Mathlib.Data.Nat.Find
import Mathlib.Order.Bounds.Defs

/-! The lines of a text chart. Two lines are drawn for each row of the grid, and every mark has
its own place in them. The blank lines at the end are told by their characters alone. They
hold no mark, since a delimiter or a blank is never drawn for one, and nothing beyond the size
of the pattern is stitched but the far sides of its last row and column. So one blank line is
always left to be drawn below the last mark. -/

namespace CrossStitch.Ascii

/-! ### Ink -/

/-- A character that is drawn for something: neither a delimiter nor blank. -/
def IsInk (c : Char) : Prop := c ≠ delimiter ∧ Text.isBlank c = false

instance (c : Char) : Decidable (IsInk c) := inferInstanceAs (Decidable (_ ∧ _))

theorem not_isInk_space : ¬ IsInk ' ' := by decide

/-- A symbol is one of the alphabet, or the one drawn when there are no more. -/
theorem symbolOf_mem (colours : List String) (colour : String) :
    symbolOf colours colour ∈ overflowSymbol :: alphabet := by
  rw [symbolOf, List.getD_eq_getElem?_getD]
  cases h : alphabet[colours.idxOf colour]? with
  | none => exact List.mem_cons_self
  | some c => exact List.mem_cons_of_mem _ (List.mem_of_getElem? h)

theorem isInk_symbolOf (colours : List String) (colour : String) :
    IsInk (symbolOf colours colour) := by
  have hall : (overflowSymbol :: alphabet).all fun c => decide (IsInk c) := by decide
  exact of_decide_eq_true (List.all_eq_true.mp hall _ (symbolOf_mem colours colour))

theorem isInk_lineGlyph (stitches : Stitches) :
    lineGlyph stitches = ' ' ∨ IsInk (lineGlyph stitches) := by
  rw [lineGlyph]
  split_ifs
  · exact .inr (by decide)
  · exact .inr (by decide)
  · split
    · exact .inr (by decide)
    · exact .inr (by decide)
    · exact .inr (by decide)
    · exact .inl rfl

theorem isInk_glyph_iff {colours : List String} {stitches : Stitches} :
    IsInk (glyph colours stitches) ↔ glyph colours stitches ≠ ' ' := by
  have hcases : glyph colours stitches = ' ' ∨ IsInk (glyph colours stitches) := by
    rw [glyph]
    split
    · exact .inr (isInk_symbolOf _ _)
    · exact isInk_lineGlyph stitches
  constructor
  · intro h hblank
    exact not_isInk_space (hblank ▸ h)
  · exact hcases.resolve_left

/-! ### Lines of a chart -/

/-- The number of a line of the chart. -/
def ChartLine.index : ChartLine → Nat
  | .margin => 0
  | .border y => 1 + 2 * y
  | .content y => 2 + 2 * y

/-- The row of a line lies within the extent. -/
def ChartLine.Within (extent : Nat) : ChartLine → Prop
  | .margin => True
  | .border y => y < extent
  | .content y => y < extent

theorem ChartLine.index_inj {line other : ChartLine} (h : line.index = other.index) :
    line = other := by
  cases line <;> cases other <;> simp only [index] at h <;> first | rfl | omega | (congr 1; omega)

namespace Drawing

variable {drawing : Drawing}

theorem length_lines (drawing : Drawing) : drawing.lines.length = 1 + 2 * drawing.grid.extent := by
  have htwo : ∀ y, [ChartLine.border y, .content y].length = 2 := fun _ => rfl
  rw [lines, List.length_cons, length_flatMap_range htwo, Nat.add_comm]

theorem getElem?_lines {line : ChartLine} (h : line.Within drawing.grid.extent) :
    drawing.lines[line.index]? = some line := by
  have htwo : ∀ y, [ChartLine.border y, .content y].length = 2 := fun _ => rfl
  have hpair {y j : Nat} (hy : y < drawing.grid.extent) (hj : j < 2) :=
    getElem?_flatMap_range htwo hy hj
  cases line with
  | margin => rfl
  | border y =>
    rw [ChartLine.index, Nat.add_comm, lines, List.getElem?_cons_succ]
    exact hpair h (j := 0) (by omega)
  | content y =>
    rw [ChartLine.index, Nat.add_comm, lines, List.getElem?_cons_succ]
    exact hpair h (j := 1) (by omega)

/-- Every line of the drawing has a number of its own. -/
theorem exists_line {i : Nat} (h : i < drawing.lines.length) :
    ∃ line : ChartLine, i = line.index ∧ line.Within drawing.grid.extent := by
  rw [length_lines] at h
  rcases i with _ | i
  · exact ⟨.margin, rfl, trivial⟩
  · rcases Nat.mod_two_eq_zero_or_one i with hi | hi
    · exact ⟨.border (i / 2), by simp only [ChartLine.index]; omega, by
        simp only [ChartLine.Within]; omega⟩
    · exact ⟨.content (i / 2), by simp only [ChartLine.index]; omega, by
        simp only [ChartLine.Within]; omega⟩

theorem index_of_getElem?_lines {i : Nat} {line : ChartLine} (h : drawing.lines[i]? = some line) :
    line.index = i ∧ line.Within drawing.grid.extent := by
  obtain ⟨other, rfl, hwithin⟩ := exists_line (List.getElem?_eq_some_iff.mp h).1
  rw [getElem?_lines hwithin] at h
  cases h
  exact ⟨rfl, hwithin⟩

theorem alternates_border (drawing : Drawing) (y : Nat) :
    Alternates (drawing.text (.border y)) drawing.grid.extent (fun _ => drawing.separator)
      fun x => drawing.topMark x y :=
  alternates_ofList _ _ _

theorem alternates_content (drawing : Drawing) (y : Nat) :
    Alternates (drawing.text (.content y)) drawing.grid.extent (fun x => drawing.leftMark x y)
      fun x => drawing.cellMark x y :=
  alternates_ofList _ _ _

/-! ### Marks -/

/-- Something is drawn in the line: an edge, or a character in a cell. -/
def Marked (drawing : Drawing) : ChartLine → Prop
  | .margin => False
  | .border y => ∃ x, drawing.grid.topEdge x y = true
  | .content y => ∃ x, drawing.grid.leftEdge x y = true ∨ drawing.cellMark x y ≠ ' '

/-- Something is drawn in the line of a number. -/
def MarkOn (drawing : Drawing) (i : Nat) : Prop :=
  ∃ line : ChartLine, line.index = i ∧ drawing.Marked line

theorem markOn_index {line : ChartLine} : drawing.MarkOn line.index ↔ drawing.Marked line := by
  constructor
  · rintro ⟨other, hindex, hmarked⟩
    rwa [← ChartLine.index_inj hindex]
  · exact fun hmarked => ⟨line, rfl, hmarked⟩

/-- A drawing with room behind all that is stitched up to a size. -/
structure Roomy (drawing : Drawing) (size : Nat) : Prop where
  extent : drawing.grid.extent = size + surplus
  blank : ∀ x y, size < x ∨ size < y → drawing.grid.look x y = Stitches.blank
  separator : drawing.separator = ' ' ∨ drawing.separator = delimiter

variable {size : Nat}

theorem Roomy.le_of_topEdge (h : drawing.Roomy size) {x y : Nat}
    (he : drawing.grid.topEdge x y = true) : x ≤ size ∧ y ≤ size + 1 := by
  by_contra hout
  have habove : drawing.grid.above x y = Stitches.blank := by
    cases y with
    | zero => rfl
    | succ y => exact h.blank x y (by omega)
  rw [Grid.topEdge, h.blank x y (by omega), habove] at he
  cases he

theorem Roomy.le_of_leftEdge (h : drawing.Roomy size) {x y : Nat}
    (he : drawing.grid.leftEdge x y = true) : x ≤ size + 1 ∧ y ≤ size := by
  by_contra hout
  have hbefore : drawing.grid.before x y = Stitches.blank := by
    cases x with
    | zero => rfl
    | succ x => exact h.blank x y (by omega)
  rw [Grid.leftEdge, h.blank x y (by omega), hbefore] at he
  cases he

theorem Roomy.le_of_cellMark (h : drawing.Roomy size) {x y : Nat}
    (hc : drawing.cellMark x y ≠ ' ') : x ≤ size ∧ y ≤ size := by
  by_contra hout
  apply hc
  rw [cellMark, h.blank x y (by omega)]
  rfl

/-- The last mark there can be is for the far side of the last row. -/
theorem Roomy.index_le (h : drawing.Roomy size) {i : Nat} (hi : drawing.MarkOn i) :
    i ≤ 2 * size + 3 := by
  obtain ⟨line, rfl, hmarked⟩ := hi
  cases line with
  | margin => cases hmarked
  | border y =>
    obtain ⟨x, he⟩ := hmarked
    have := h.le_of_topEdge he
    simp only [ChartLine.index]
    omega
  | content y =>
    have hy : y ≤ size := by
      obtain ⟨x, he | hc⟩ := hmarked
      · exact (h.le_of_leftEdge he).2
      · exact (h.le_of_cellMark hc).2
    simp only [ChartLine.index]
    omega

/-! ### Blank lines -/

theorem mem_text (hs : drawing.separator = ' ' ∨ drawing.separator = delimiter)
    {line : ChartLine} {c : Char} (hc : c ∈ (drawing.text line).toList) :
    c = ' ' ∨ c = delimiter ∨ IsInk c := by
  cases line with
  | margin => simp [text] at hc
  | border y =>
    simp only [text, String.toList_ofList, List.mem_flatMap, List.mem_cons, List.not_mem_nil,
      or_false] at hc
    obtain ⟨x, _, rfl | rfl⟩ := hc
    · exact hs.imp_right .inl
    · rw [topMark]
      split <;> decide
  | content y =>
    simp only [text, String.toList_ofList, List.mem_flatMap, List.mem_cons, List.not_mem_nil,
      or_false] at hc
    obtain ⟨x, _, rfl | rfl⟩ := hc
    · rw [leftMark]
      split <;> decide
    · by_cases hcell : drawing.cellMark x y = ' '
      · exact .inl hcell
      · exact .inr (.inr (isInk_glyph_iff.mpr hcell))

/-- No line of a chart is broken by what is drawn in it. -/
theorem isLine_text (hs : drawing.separator = ' ' ∨ drawing.separator = delimiter)
    (line : ChartLine) : Text.IsLine (drawing.text line).toList := by
  have hnot : ∀ c : Char, c ≠ ' ' → Text.isBlank c = true → c ∉ (drawing.text line).toList := by
    intro c hspace hblank hc
    rcases mem_text hs hc with rfl | rfl | hink
    · exact hspace rfl
    · exact absurd hblank (by decide)
    · rw [hink.2] at hblank
      cases hblank
  refine ⟨hnot '\n' (by decide) (by decide), fun hlast => ?_⟩
  exact hnot '\r' (by decide) (by decide) (List.mem_of_getLast? hlast)

theorem Roomy.isLine_text (h : drawing.Roomy size) (line : ChartLine) :
    Text.IsLine (drawing.text line).toList :=
  Drawing.isLine_text h.separator line

theorem isBlank_iff {line : ChartLine} :
    drawing.isBlank line = true ↔ ∀ c ∈ (drawing.text line).toList, ¬ IsInk c := by
  simp only [isBlank, List.all_eq_true, Bool.or_eq_true, beq_iff_eq, IsInk, not_and,
    Bool.not_eq_false, or_iff_not_imp_left, ne_eq]

theorem isInk_topMark_iff {x y : Nat} :
    IsInk (drawing.topMark x y) ↔ drawing.grid.topEdge x y = true := by
  rw [topMark]
  split_ifs with h <;> simp only [h] <;> decide

theorem isInk_leftMark_iff {x y : Nat} :
    IsInk (drawing.leftMark x y) ↔ drawing.grid.leftEdge x y = true := by
  rw [leftMark]
  split_ifs with h <;> simp only [h] <;> decide

/-- A line whose characters are all delimiters and blanks is a line without a mark. -/
theorem Roomy.isBlank_iff_not_marked (h : drawing.Roomy size) (line : ChartLine) :
    drawing.isBlank line = true ↔ ¬ drawing.Marked line := by
  have hseparator : ¬ IsInk drawing.separator := by
    rcases h.separator with hs | hs <;> rw [hs] <;> decide
  rw [isBlank_iff]
  cases line with
  | margin => simp [text, Marked]
  | border y =>
    simp only [text, String.toList_ofList, List.mem_flatMap, List.mem_range, List.mem_cons,
      List.not_mem_nil, or_false, Marked, not_exists]
    constructor
    · intro hblank x he
      have := h.le_of_topEdge he
      refine hblank _ ⟨x, ?_, .inr rfl⟩ (isInk_topMark_iff.mpr he)
      rw [h.extent, surplus]
      omega
    · rintro hfree c ⟨x, _, rfl | rfl⟩
      · exact hseparator
      · rw [isInk_topMark_iff]
        exact hfree x
  | content y =>
    simp only [text, String.toList_ofList, List.mem_flatMap, List.mem_range, List.mem_cons,
      List.not_mem_nil, or_false, Marked, not_exists, not_or]
    constructor
    · intro hblank x
      constructor
      · intro he
        have := h.le_of_leftEdge he
        refine hblank _ ⟨x, ?_, .inl rfl⟩ (isInk_leftMark_iff.mpr he)
        rw [h.extent, surplus]
        omega
      · intro hc
        have := h.le_of_cellMark hc
        refine hblank _ ⟨x, ?_, .inr rfl⟩ (isInk_glyph_iff.mpr hc)
        rw [h.extent, surplus]
        omega
    · rintro hfree c ⟨x, _, rfl | rfl⟩
      · rw [isInk_leftMark_iff]
        exact (hfree x).1
      · rw [cellMark, isInk_glyph_iff]
        exact (hfree x).2

/-! ### Lines shown -/

theorem shownLines_of_blank (h : ∀ line ∈ drawing.lines, drawing.isBlank line = true) :
    drawing.shownLines = [] := by
  have hall : ∀ line ∈ drawing.lines.reverse, drawing.isBlank line = true := by
    simpa using h
  have hnone : drawing.lines.reverse.dropWhile drawing.isBlank = [] := by
    rw [← List.append_nil drawing.lines.reverse, List.dropWhile_append_of_pos hall,
      List.dropWhile_nil]
  simp [shownLines, hnone]

/-- The lines are shown to the last that is not blank, and one further line. -/
theorem shownLines_of_last {last : Nat} (hlast : last + 1 < drawing.lines.length)
    (hink : ∀ line ∈ drawing.lines[last]?, drawing.isBlank line = false)
    (hblank : ∀ line ∈ drawing.lines.drop (last + 1), drawing.isBlank line = true) :
    drawing.shownLines = drawing.lines.take (last + 2) := by
  have hreverse : drawing.lines.reverse =
      (drawing.lines.drop (last + 1)).reverse ++ (drawing.lines.take (last + 1)).reverse := by
    rw [← List.reverse_append, List.take_append_drop]
  have hend : ∀ line ∈ (drawing.lines.drop (last + 1)).reverse, drawing.isBlank line = true := by
    simpa using hblank
  have hget : drawing.lines[last]? = some drawing.lines[last] :=
    List.getElem?_eq_getElem (by omega)
  have hstart : (drawing.lines.take (last + 1)).reverse =
      drawing.lines[last] :: (drawing.lines.take last).reverse := by
    rw [List.take_add_one, hget, List.reverse_append]
    rfl
  have hstop := hink _ hget
  have hkept : drawing.lines.take (last + 1) ≠ [] := by
    rw [Ne, ← List.length_eq_zero_iff, List.length_take]
    omega
  have hone : drawing.lines.take (last + 2) =
      drawing.lines.take (last + 1) ++ [drawing.lines[last + 1]] := by
    rw [List.take_add_one, List.getElem?_eq_getElem hlast]
    rfl
  simp only [shownLines]
  rw [hreverse, List.takeWhile_append_of_pos hend, List.dropWhile_append_of_pos hend, hstart,
    List.takeWhile_cons_of_neg (by simp [hstop]), List.dropWhile_cons_of_neg (by simp [hstop]),
    ← hstart, List.reverse_reverse, List.append_nil, List.getLast?_reverse, List.head?_drop,
    List.getElem?_eq_getElem hlast, if_neg (by simpa using hkept), hone]
  rfl

/-- What the chart shows of a drawing with marks, the last of which is in line `last`. -/
structure Shows (drawing : Drawing) (last : Nat) (chart : List String) : Prop where
  length : chart.length = last + 2
  /-- The further line is one of the drawing, too. -/
  within : last + 1 < 1 + 2 * drawing.grid.extent
  margin : chart[0]? = some ""
  border : ∀ y line, chart[1 + 2 * y]? = some line →
    Alternates line drawing.grid.extent (fun _ => drawing.separator)
      fun x => if drawing.grid.topEdge x y then '-' else ' '
  content : ∀ y line, chart[2 + 2 * y]? = some line →
    Alternates line drawing.grid.extent
      (fun x => if drawing.grid.leftEdge x y then '|' else ' ') fun x => drawing.cellMark x y

theorem Roomy.shownLines_eq_nil (h : drawing.Roomy size) (hnone : ∀ i, ¬ drawing.MarkOn i) :
    drawing.shownLines = [] := by
  apply shownLines_of_blank
  intro line _
  rw [h.isBlank_iff_not_marked, ← markOn_index]
  exact hnone _

theorem Roomy.shownLines_eq_take (h : drawing.Roomy size) {last : Nat}
    (hlast : IsGreatest {i | drawing.MarkOn i} last) :
    drawing.shownLines = drawing.lines.take (last + 2) := by
  have hroom : last + 1 < drawing.lines.length := by
    have := h.index_le hlast.1
    rw [length_lines, h.extent, surplus]
    omega
  apply shownLines_of_last hroom
  · intro line hline
    obtain ⟨rfl, _⟩ := index_of_getElem?_lines hline
    rw [← Bool.not_eq_true, h.isBlank_iff_not_marked, not_not, ← markOn_index]
    exact hlast.1
  · intro line hline
    obtain ⟨j, hj⟩ := List.mem_iff_getElem?.mp hline
    rw [List.getElem?_drop] at hj
    obtain ⟨hindex, _⟩ := index_of_getElem?_lines hj
    rw [h.isBlank_iff_not_marked, ← markOn_index, hindex]
    intro hmark
    have : last + 1 + j ≤ last := hlast.2 hmark
    omega

theorem Roomy.shows (h : drawing.Roomy size) {last : Nat}
    (hlast : IsGreatest {i | drawing.MarkOn i} last) :
    drawing.Shows last (drawing.shownLines.map drawing.text) := by
  have hle := h.index_le hlast.1
  have hroom : last + 1 < 1 + 2 * drawing.grid.extent := by
    rw [h.extent, surplus]
    omega
  -- a line of the chart is the line of the drawing with the same number
  have hline : ∀ (line : ChartLine) (text : String),
      (drawing.shownLines.map drawing.text)[line.index]? = some text →
        drawing.text line = text := by
    intro line text ht
    rw [List.getElem?_map, h.shownLines_eq_take hlast, Option.map_eq_some_iff] at ht
    obtain ⟨other, ho, rfl⟩ := ht
    rw [List.getElem?_take] at ho
    split at ho
    · obtain ⟨hindex, _⟩ := index_of_getElem?_lines ho
      rw [ChartLine.index_inj hindex]
    · cases ho
  refine ⟨?_, hroom, ?_, fun y line ht => ?_, fun y line ht => ?_⟩
  · rw [List.length_map, h.shownLines_eq_take hlast, List.length_take, length_lines]
    omega
  · rw [List.getElem?_map, h.shownLines_eq_take hlast]
    rfl
  · rw [← hline (.border y) line ht]
    exact drawing.alternates_border y
  · rw [← hline (.content y) line ht]
    exact drawing.alternates_content y

/-- There is a last mark, if there is any. -/
theorem Roomy.exists_last (h : drawing.Roomy size) (hany : ∃ i, drawing.MarkOn i) :
    ∃ last, IsGreatest {i | drawing.MarkOn i} last := by
  classical
  obtain ⟨i, hi⟩ := hany
  exact ⟨_, Nat.findGreatest_spec (h.index_le hi) hi,
    fun j hj => Nat.le_findGreatest (h.index_le hj) hj⟩

end Drawing

end CrossStitch.Ascii
