import CrossStitch.Proofs.Render.TextChart

/-! Text charts without delimiters. Delimiters stand between the columns of border lines and
nowhere else. Whether a line is blank is decided by the marks in it, since delimiters and blanks
count alike, and so a chart is cut off below the same line with delimiters and without. -/

namespace CrossStitch.Ascii

/-- A line with a delimiter in front of every column, and the same line without them. -/
structure Undelimited (line bare : String) : Prop where
  length : line.length = bare.length
  even : ∀ j, 2 * j < line.length →
    line.toList[2 * j]? = some '.' ∧ bare.toList[2 * j]? = some ' '
  odd : ∀ j, line.toList[2 * j + 1]? = bare.toList[2 * j + 1]?

/-- The lines of a chart with delimiters and without them. The odd lines are the borders, and no
others differ. -/
structure SameButDelimiters (chart bare : List String) : Prop where
  length : chart.length = bare.length
  content : ∀ i, chart[2 * i]? = bare[2 * i]?
  border : ∀ i line other, chart[2 * i + 1]? = some line → bare[2 * i + 1]? = some other →
    Undelimited line other

namespace Drawing

/-- The drawing with another separator. -/
def separatedBy (drawing : Drawing) (separator : Char) : Drawing :=
  { drawing with separator }

variable {drawing : Drawing} {separator : Char}

/-! ### Lines shown -/

theorem isBlank_border_iff (h : ¬ IsInk drawing.separator) (y : Nat) :
    drawing.isBlank (.border y) = true ↔
      ∀ x < drawing.grid.extent, ¬ IsInk (drawing.topMark x y) := by
  simp only [isBlank_iff, text, String.toList_ofList, List.mem_flatMap, List.mem_range,
    List.mem_cons, List.not_mem_nil, or_false]
  constructor
  · exact fun hblank x hx => hblank _ ⟨x, hx, .inr rfl⟩
  · rintro hfree c ⟨x, hx, rfl | rfl⟩
    · exact h
    · exact hfree x hx

/-- A line is blank whatever the separator, as long as that is not ink. -/
theorem isBlank_separatedBy (h : ¬ IsInk drawing.separator) (hs : ¬ IsInk separator) :
    (drawing.separatedBy separator).isBlank = drawing.isBlank := by
  funext line
  cases line with
  | margin => rfl
  | border y =>
    rw [Bool.eq_iff_iff, isBlank_border_iff h, isBlank_border_iff hs]
    rfl
  | content y => rfl

theorem shownLines_separatedBy (h : ¬ IsInk drawing.separator) (hs : ¬ IsInk separator) :
    (drawing.separatedBy separator).shownLines = drawing.shownLines := by
  have hlines : (drawing.separatedBy separator).lines = drawing.lines := rfl
  rw [shownLines, shownLines, hlines, isBlank_separatedBy h hs]

/-- The lines shown are the first lines of the drawing, and the next one, if there is one. -/
theorem shownLines_eq_nil_or (drawing : Drawing) :
    drawing.shownLines = [] ∨ ∃ kept rest, drawing.lines = kept ++ rest ∧
      drawing.shownLines = kept ++ [rest.head?.getD .margin] := by
  have hlines : drawing.lines = (drawing.lines.reverse.dropWhile drawing.isBlank).reverse ++
      (drawing.lines.reverse.takeWhile drawing.isBlank).reverse := by
    rw [← List.reverse_append, List.takeWhile_append_dropWhile, List.reverse_reverse]
  by_cases hkept : (drawing.lines.reverse.dropWhile drawing.isBlank).reverse.isEmpty = true
  · exact .inl (if_pos hkept)
  · refine .inr ⟨_, _, hlines, ?_⟩
    rw [List.head?_reverse]
    exact if_neg hkept

/-- A line that is shown has its number in the drawing, but for the empty line below a drawing
of which every line is shown. -/
theorem index_of_getElem?_shownLines {i : Nat} {line : ChartLine}
    (h : drawing.shownLines[i]? = some line) (hne : line ≠ .margin) : line.index = i := by
  rcases drawing.shownLines_eq_nil_or with hnil | ⟨kept, rest, hlines, hshown⟩
  · rw [hnil] at h
    cases h
  · rw [hshown] at h
    cases rest with
    | cons next rest =>
      have hi := (List.getElem?_eq_some_iff.mp h).1
      rw [List.append_cons] at hlines
      rw [← List.getElem?_append_left hi] at h
      exact (index_of_getElem?_lines (hlines ▸ h)).1
    | nil =>
      -- every line is kept, and only the one put below them has no number
      rw [List.append_nil] at hlines
      rw [List.getElem?_append, ← hlines] at h
      split at h
      · exact (index_of_getElem?_lines h).1
      · exact absurd (List.mem_singleton.mp (List.mem_of_getElem? h)) hne

/-- So it is with the lines of a chart, the last of which is empty. -/
theorem chart_eq_map (drawing : Drawing) :
    drawing.chart = (drawing.shownLines ++ [ChartLine.margin]).map drawing.text := by
  rw [List.map_append]
  rfl

/-! ### Texts of lines -/

theorem undelimited_border (h : drawing.separator = delimiter) (y : Nat) :
    Undelimited (drawing.text (.border y)) ((drawing.separatedBy ' ').text (.border y)) := by
  have hline := drawing.alternates_border y
  have hbare := (drawing.separatedBy ' ').alternates_border y
  have hextent : (drawing.separatedBy ' ').grid.extent = drawing.grid.extent := rfl
  rw [hextent] at hbare
  refine ⟨hline.length.trans hbare.length.symm, fun j hj => ?_, fun j => ?_⟩
  · rw [hline.length] at hj
    rw [hline.even j (by omega), hbare.even j (by omega), h]
    exact ⟨rfl, rfl⟩
  · rcases Nat.lt_or_ge j drawing.grid.extent with hin | hout
    · rw [hline.odd j hin, hbare.odd j hin]
      rfl
    · rw [List.getElem?_eq_none, List.getElem?_eq_none]
      · rw [String.length_toList, hbare.length]
        omega
      · rw [String.length_toList, hline.length]
        omega

/-- Lines that stand at their numbers have the same texts without delimiters, but for borders. -/
theorem sameButDelimiters_map (h : drawing.separator = delimiter) {lines : List ChartLine}
    (hl : ∀ (i : Nat) (line : ChartLine), lines[i]? = some line → line ≠ .margin →
      line.index = i) :
    SameButDelimiters (lines.map drawing.text) (lines.map (drawing.separatedBy ' ').text) := by
  refine ⟨by rw [List.length_map, List.length_map], fun i => ?_, fun i text other ht ho => ?_⟩
  · rw [List.getElem?_map, List.getElem?_map]
    refine Option.map_congr fun line hline => ?_
    cases line with
    | margin => rfl
    | border y =>
      have hi := hl _ _ hline (by simp)
      simp only [ChartLine.index] at hi
      omega
    | content y => rfl
  · rw [List.getElem?_map, Option.map_eq_some_iff] at ht ho
    obtain ⟨line, hline, rfl⟩ := ht
    obtain ⟨same, hsame, rfl⟩ := ho
    cases hline.symm.trans hsame
    cases line with
    | margin => exact ⟨rfl, fun j hj => absurd hj (Nat.not_lt_zero _), fun j => rfl⟩
    | border y => exact undelimited_border h y
    | content y =>
      have hi := hl _ _ hline (by simp)
      simp only [ChartLine.index] at hi
      omega

theorem sameButDelimiters_chart (h : drawing.separator = delimiter) :
    SameButDelimiters drawing.chart (drawing.separatedBy ' ').chart := by
  have hink : ¬ IsInk drawing.separator := by
    rw [h]
    decide
  rw [chart_eq_map, chart_eq_map, shownLines_separatedBy hink not_isInk_space]
  refine sameButDelimiters_map h fun i line hline hne => ?_
  rw [List.getElem?_append] at hline
  split at hline
  · exact index_of_getElem?_shownLines hline hne
  · exact absurd (List.mem_singleton.mp (List.mem_of_getElem? hline)) hne

end Drawing

theorem drawingOf_bare (grid : Grid) :
    drawingOf grid ⟨true⟩ = (drawingOf grid ⟨false⟩).separatedBy ' ' :=
  rfl

/-- The option for charts without delimiters takes away delimiters and nothing else. Without it
and with it a pattern is refused alike, or the same rows of the grid are shown and the same is
written below them, and the lines of the chart are the same but for the delimiters of borders. -/
theorem option_removes_only_delimiters (pattern : Pattern) :
    (∃ fault, render pattern ⟨false⟩ = .error fault ∧ render pattern ⟨true⟩ = .error fault) ∨
    ∃ grid output other below, Grid.ofPattern pattern (pattern.size + 3) = .ok grid ∧
      render pattern ⟨false⟩ = .ok output ∧ render pattern ⟨true⟩ = .ok other ∧
      (drawingOf grid ⟨false⟩).shownLines = (drawingOf grid ⟨true⟩).shownLines ∧
      SameButDelimiters (chartLines output) (chartLines other) ∧
      output = Text.unlines (chartLines output ++ ["---"]) ++ below ∧
      other = Text.unlines (chartLines other ++ ["---"]) ++ below ∧
      Text.lines output = chartLines output ++ ["---"] ++ Text.lines below ∧
      Text.lines other = chartLines other ++ ["---"] ++ Text.lines below := by
  cases hg : Grid.ofPattern pattern (pattern.size + surplus) with
  | error fault => exact .inl ⟨fault, render_of_error hg, render_of_error hg⟩
  | ok grid =>
    cases hfind : grid.find? Stitches.conflicts with
    | some stitches =>
      have hrefused (options : RenderOptions) :
          render pattern options = .error (.bare .incompatibleLineCombination) := by
        rw [render_of_grid hg, hfind]
        rfl
      exact .inl ⟨_, hrefused ⟨false⟩, hrefused ⟨true⟩⟩
    | none =>
      obtain ⟨below, hbelow⟩ := exists_below pattern grid
      have hchart (options : RenderOptions) :
          chartLines (wholeText pattern options grid) = (drawingOf grid options).chart := by
        rw [hbelow options, chartLines_of_chart (separator_drawingOf grid options)]
      have htext (options : RenderOptions) : wholeText pattern options grid =
          Text.unlines (chartLines (wholeText pattern options grid) ++ ["---"]) ++ below := by
        rw [hchart]
        exact hbelow options
      have hlines (options : RenderOptions) : Text.lines (wholeText pattern options grid) =
          chartLines (wholeText pattern options grid) ++ ["---"] ++ Text.lines below := by
        rw [hchart, hbelow options, lines_of_chart (separator_drawingOf grid options)]
      have hshown : (drawingOf grid ⟨false⟩).shownLines = (drawingOf grid ⟨true⟩).shownLines := by
        rw [drawingOf_bare, Drawing.shownLines_separatedBy (fun h => h.1 rfl) not_isInk_space]
      have hsame : SameButDelimiters (drawingOf grid ⟨false⟩).chart
          (drawingOf grid ⟨true⟩).chart := by
        rw [drawingOf_bare]
        exact Drawing.sameButDelimiters_chart rfl
      refine .inr ⟨grid, wholeText pattern ⟨false⟩ grid, wholeText pattern ⟨true⟩ grid, below, hg,
        render_eq_ok_iff.mpr ⟨grid, hg, hfind, rfl⟩, render_eq_ok_iff.mpr ⟨grid, hg, hfind, rfl⟩,
        hshown, ?_, htext ⟨false⟩, htext ⟨true⟩, hlines ⟨false⟩, hlines ⟨true⟩⟩
      rw [hchart, hchart]
      exact hsame

/-- One cross: its border lines are the second, the fourth and the sixth. -/
example : (patternOfActions (oneCross ⟨0, 0⟩) >>= fun pattern => render pattern ⟨false⟩) =
    .ok "\n. . . . \n        \n. . . . \n   a    \n. . . . \n\n---\ncolor: a => red (count: 1)\n" := by
  decide +kernel

example : (patternOfActions (oneCross ⟨0, 0⟩) >>= fun pattern => render pattern ⟨true⟩) =
    .ok "\n        \n        \n        \n   a    \n        \n\n---\ncolor: a => red (count: 1)\n" := by
  decide +kernel

end CrossStitch.Ascii
