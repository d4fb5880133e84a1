import CrossStitch.Proofs.Pattern.Recolouring
import CrossStitch.Proofs.Render.Margin
import CrossStitch.Proofs.Render.RowOrder
import Mathlib.Algebra.Order.BigOperators.Group.List
import Mathlib.Algebra.Order.Ring.Nat
import Mathlib.Logic.Equiv.Basic

/-! The tags of a page. Every tag starts with a `<`, and whatever is shielded has none. So the
tags of a page are those of its frame, of its cells and legend lines, and of the lines in cells,
and how many these are does not depend on the colours. But the markup of a line is not shielded,
and the colour in it is neither, so that the page has the tags of that colour besides. -/

namespace CrossStitch.Html

/-- How many tags start in a text. -/
def tagStarts (text : String) : Nat :=
  text.toList.count '<'

theorem tagStarts_append (text other : String) :
    tagStarts (text ++ other) = tagStarts text + tagStarts other := by
  rw [tagStarts, String.toList_append, List.count_append, tagStarts, tagStarts]

theorem tagStarts_eq_zero {text : String} (h : '<' ∉ text.toList) : tagStarts text = 0 :=
  List.count_eq_zero_of_not_mem h

/-! ### Pieces -/

theorem not_mem_escapeChar (c : Char) : '<' ∉ escapeChar c := by
  unfold escapeChar
  split
  case h_7 c hlt _ _ _ _ _ =>
    rw [List.mem_singleton]
    exact fun h => hlt h.symm
  all_goals decide

/-- Shielded text starts no tags. -/
theorem tagStarts_escape (text : String) : tagStarts (escape text) = 0 := by
  apply tagStarts_eq_zero
  rw [escape, String.toList_ofList]
  intro h
  obtain ⟨c, _, hc⟩ := List.mem_flatMap.mp h
  exact not_mem_escapeChar c hc

/-- How many tags start in the pieces of a page. -/
def tagsOf (pieces : List Markup) : Nat :=
  (pieces.map fun piece => tagStarts piece.text).sum

theorem tagStarts_flatten (pieces : List Markup) :
    tagStarts (Markup.flatten pieces) = tagsOf pieces := by
  induction pieces with
  | nil => rfl
  | cons piece pieces ih =>
    have hcons : Markup.flatten (piece :: pieces) = piece.text ++ Markup.flatten pieces := by
      simp [Markup.flatten]
    rw [hcons, tagStarts_append, ih]
    rfl

theorem tagsOf_append (pieces others : List Markup) :
    tagsOf (pieces ++ others) = tagsOf pieces + tagsOf others := by
  simp [tagsOf]

theorem tagsOf_flatMap {α : Type} (items : List α) (pieces : α → List Markup) :
    tagsOf (items.flatMap pieces) = (items.map fun item => tagsOf (pieces item)).sum := by
  induction items with
  | nil => rfl
  | cons item items ih => rw [List.flatMap_cons, tagsOf_append, ih, List.map_cons, List.sum_cons]

theorem tagsOf_cellMarkup (cell : PageCell) : tagsOf (cellMarkup cell) = 2 + tagStarts cell.value := by
  have hopen : tagStarts "\n  <div class=\"cell\" id=\"" = 1 := by decide +kernel
  have hstyle : tagStarts "\" style=\"" = 0 := by decide +kernel
  have hvalue : tagStarts "\">" = 0 := by decide +kernel
  have hclose : tagStarts "</div>" = 1 := by decide +kernel
  simp only [tagsOf, cellMarkup, List.map_cons, List.map_nil, List.sum_cons, List.sum_nil,
    Markup.text, tagStarts_escape, hopen, hstyle, hvalue, hclose]
  omega

theorem tagsOf_legendMarkup (line : String) : tagsOf (legendMarkup line) = 2 := by
  have hopen : tagStarts "\n  <li>" = 1 := by decide +kernel
  have hclose : tagStarts "</li>" = 1 := by decide +kernel
  simp only [tagsOf, legendMarkup, List.map_cons, List.map_nil, List.sum_cons, List.sum_nil,
    Markup.text, tagStarts_escape, hopen, hclose]
  omega

theorem tagStarts_pageHead : tagStarts pageHead = 7 := by
  unfold pageHead
  rw [tagStarts_append]
  decide +kernel

theorem tagStarts_pageStyle : tagStarts pageStyle = 4 := by
  unfold pageStyle
  simp only [tagStarts_append]
  decide +kernel

/-- The frame of a page has 16 tags, and each cell and each line of the legend has two. What is in
the cells comes on top. -/
theorem tagStarts_page (chart : PageChart) :
    tagStarts (Markup.flatten (page chart)) =
      16 + 2 * chart.cells.length + (chart.cells.map fun cell => tagStarts cell.value).sum +
        2 * chart.legend.length := by
  have hmiddle : tagStarts "\n</div>\n<ul class=\"legend\">" = 2 := by decide +kernel
  have hend : tagStarts "\n</ul>\n</body>\n</html>" = 3 := by decide +kernel
  have hfirst : tagsOf [.fixed pageHead, .shielded (toString chart.size), .fixed pageStyle] = 11 := by
    simp only [tagsOf, List.map_cons, List.map_nil, List.sum_cons, List.sum_nil, Markup.text,
      tagStarts_escape, tagStarts_pageHead, tagStarts_pageStyle]
    omega
  have hcells : tagsOf (chart.cells.flatMap cellMarkup) =
      2 * chart.cells.length + (chart.cells.map fun cell => tagStarts cell.value).sum := by
    simp only [tagsOf_flatMap, tagsOf_cellMarkup, List.sum_map_add, List.map_const',
      List.sum_replicate_nat, Nat.mul_comm]
  have hlegend : tagsOf (chart.legend.flatMap legendMarkup) = 2 * chart.legend.length := by
    simp only [tagsOf_flatMap, tagsOf_legendMarkup, List.map_const', List.sum_replicate_nat,
      Nat.mul_comm]
  rw [tagStarts_flatten, page, tagsOf_append, tagsOf_append, tagsOf_append, tagsOf_append, hfirst,
    hcells, hlegend]
  simp only [tagsOf, List.map_cons, List.map_nil, List.sum_cons, List.sum_nil, Markup.text, hmiddle,
    hend]
  omega

/-! ### Lines -/

/-- The colours in the markup of the lines of a cell, as often as they are there. -/
def lineColours (stitches : Stitches) : List String :=
  match stitches.horizontal, stitches.vertical with
  | some h, some v => [h, v, h]
  | some h, none => [h]
  | none, some v => [v]
  | none, none =>
    match stitches.backslash, stitches.slash with
    | some colour, _ => [colour]
    | none, some colour => [colour]
    | none, none => []

/-- How many tags start in colours. -/
def tagsIn (colours : List String) : Nat :=
  (colours.map tagStarts).sum

theorem tagsIn_append (colours others : List String) :
    tagsIn (colours ++ others) = tagsIn colours + tagsIn others := by
  rw [tagsIn, List.map_append, List.sum_append, tagsIn, tagsIn]

theorem tagStarts_colouredLine {line : String} (hline : '<' ∉ line.toList) (colour : String) :
    tagStarts (colouredLine line colour) = 2 + tagStarts colour := by
  have hopen : tagStarts "<div style=\"color: " = 1 := by decide +kernel
  have hvalue : tagStarts "\">" = 0 := by decide +kernel
  have hclose : tagStarts "</div>" = 1 := by decide +kernel
  unfold colouredLine
  simp only [tagStarts_append, tagStarts_eq_zero hline, hopen, hvalue, hclose]
  omega

/-- Each part of a line has two tags of its own, besides those of its colour. -/
theorem tagStarts_lineMarkup? {stitches : Stitches} {text : String}
    (h : lineMarkup? stitches = some text) :
    tagStarts text = 2 * (lineColours stitches).length + tagsIn (lineColours stitches) := by
  have hone : ∀ {line colour : String}, '<' ∉ line.toList →
      tagStarts (colouredLine line colour) = 2 * [colour].length + tagsIn [colour] := by
    intro line colour hline
    rw [tagStarts_colouredLine hline]
    simp [tagsIn]
  rw [lineColours]
  rw [lineMarkup?] at h
  cases hh : stitches.horizontal with
  | some horizontal =>
    cases hv : stitches.vertical with
    | some vertical =>
      rw [hh, hv] at h
      cases h
      have hdash : '<' ∉ "-".toList := by decide
      have hbar : '<' ∉ "|".toList := by decide
      rw [tagStarts_append, tagStarts_append, tagStarts_colouredLine hdash,
        tagStarts_colouredLine hbar]
      simp only [tagsIn, List.map_cons, List.map_nil, List.sum_cons, List.sum_nil, List.length_cons,
        List.length_nil]
      omega
    | none =>
      rw [hh, hv] at h
      cases h
      exact hone (by decide)
  | none =>
    cases hv : stitches.vertical with
    | some vertical =>
      rw [hh, hv] at h
      cases h
      exact hone (by decide)
    | none =>
      rw [hh, hv] at h
      cases hb : stitches.backslash with
      | some backslash =>
        rw [hb] at h
        cases h
        exact hone (by decide)
      | none =>
        cases hs : stitches.slash with
        | some slash =>
          rw [hb, hs] at h
          cases h
          exact hone (by decide)
        | none =>
          rw [hb, hs] at h
          cases h

theorem lineColours_of_lineMarkup?_eq_none {stitches : Stitches} (h : lineMarkup? stitches = none) :
    lineColours stitches = [] := by
  obtain ⟨_, _, _, _, _, horizontal, vertical, backslash, slash⟩ := stitches
  cases horizontal <;> cases vertical <;> cases backslash <;> cases slash <;>
    first | rfl | cases h

theorem tagStarts_pageCell (grid : Grid) (width x y : Nat) :
    tagStarts (pageCell grid width x y).value =
      2 * (lineColours (grid.look x y)).length + tagsIn (lineColours (grid.look x y)) := by
  have hvalue : (pageCell grid width x y).value =
      (lineMarkup? (grid.look x y)).getD (marginLabel x y) := rfl
  rw [hvalue]
  cases hm : lineMarkup? (grid.look x y) with
  | none =>
    rw [lineColours_of_lineMarkup?_eq_none hm]
    exact tagStarts_eq_zero (not_mem_marginLabel x y)
  | some text => exact tagStarts_lineMarkup? hm

theorem lineColours_recolour (colour : String → String) (stitches : Stitches) :
    lineColours (stitches.recolour colour) = (lineColours stitches).map colour := by
  obtain ⟨_, _, _, _, _, horizontal, vertical, backslash, slash⟩ := stitches
  cases horizontal <;> cases vertical <;> cases backslash <;> cases slash <;> rfl

/-- The colours in the markup of all lines of a grid. -/
def gridLineColours (grid : Grid) : List String :=
  (positions grid.extent).flatMap fun p => lineColours (grid.look p.1 p.2)

/-- What is written for a line is the colour of one of the lines there. -/
theorem exists_slot_of_mem_lineColours {stitches : Stitches} {colour : String}
    (h : colour ∈ lineColours stitches) :
    ∃ mode : StitchMode, mode.isLine = true ∧ stitches.slot mode = some colour := by
  rw [lineColours] at h
  split at h
  next horizontal vertical hh hv =>
    simp only [List.mem_cons, List.not_mem_nil, or_false] at h
    rcases h with rfl | rfl | rfl
    · exact ⟨.horizontalLine, rfl, hh⟩
    · exact ⟨.verticalLine, rfl, hv⟩
    · exact ⟨.horizontalLine, rfl, hh⟩
  next horizontal hh _ => exact ⟨.horizontalLine, rfl, List.mem_singleton.mp h ▸ hh⟩
  next vertical _ hv => exact ⟨.verticalLine, rfl, List.mem_singleton.mp h ▸ hv⟩
  · split at h
    next backslash hb => exact ⟨.diagonalBackslash, rfl, List.mem_singleton.mp h ▸ hb⟩
    next slash _ hs => exact ⟨.diagonalSlash, rfl, List.mem_singleton.mp h ▸ hs⟩
    · cases h

theorem mem_gridLineColours_of_horizontal {grid : Grid} {x y : Nat} {colour : String}
    (h : (grid.look x y).horizontal = some colour) : colour ∈ gridLineColours grid := by
  have hin : x < grid.extent ∧ y < grid.extent := by
    by_contra hout
    rw [Grid.look_eq_blank hout] at h
    cases h
  refine List.mem_flatMap.mpr ⟨(x, y), mem_positions.mpr hin, ?_⟩
  rw [lineColours, h]
  cases (grid.look x y).vertical <;> exact List.mem_cons_self

theorem exists_slot_of_mem_gridLineColours {grid : Grid} {colour : String}
    (h : colour ∈ gridLineColours grid) :
    ∃ (x y : Nat) (mode : StitchMode), mode.isLine = true ∧
      (grid.look x y).slot mode = some colour := by
  obtain ⟨p, _, hp⟩ := List.mem_flatMap.mp h
  exact ⟨p.1, p.2, exists_slot_of_mem_lineColours hp⟩

theorem tagsIn_eq_zero {colours : List String} (h : ∀ colour ∈ colours, '<' ∉ colour.toList) :
    tagsIn colours = 0 := by
  rw [tagsIn, List.sum_eq_zero]
  intro n hn
  obtain ⟨colour, hc, rfl⟩ := List.mem_map.mp hn
  exact tagStarts_eq_zero (h colour hc)

/-! ### Pages -/

/-- The tags of a page are those that are always there and those of the colours of lines. -/
theorem tagStarts_of_render {pattern : Pattern} {text : String}
    (h : render pattern = .ok text) :
    ∃ grid, Grid.ofPattern pattern (pattern.size + 1) = .ok grid ∧
      tagStarts text = 16 + 2 * ((pattern.size + 1) * (pattern.size + 1)) +
        2 * pattern.usage.size + 2 * (gridLineColours grid).length +
          tagsIn (gridLineColours grid) := by
  obtain ⟨chart, hchart, rfl⟩ := map_eq_ok_iff.mp h
  obtain ⟨grid, hg, _, rfl⟩ := chart_eq_ok_iff.mp hchart
  refine ⟨grid, hg, ?_⟩
  have hlegend : (wholeChart pattern grid).legend.length = pattern.usage.size := by
    rw [wholeChart, (List.mergeSort_perm _ _).length_eq, List.length_map, values_eq_map_toList,
      List.length_map, Std.ExtTreeMap.length_toList]
  have hvalues : ((wholeChart pattern grid).cells.map fun cell => tagStarts cell.value).sum =
      2 * (gridLineColours grid).length + tagsIn (gridLineColours grid) := by
    rw [wholeChart_cells, gridLineColours, Grid.extent_ofPattern hg]
    induction positions (pattern.size + 1) with
    | nil => rfl
    | cons p rest ih =>
      rw [List.map_cons, List.map_cons, List.sum_cons, ih, tagStarts_pageCell, List.flatMap_cons,
        List.length_append, tagsIn_append]
      omega
  rw [tagStarts_page, hlegend, hvalues, wholeChart_cells, List.length_map, length_positions]
  omega

section Recoloured

variable {colour label : String → String} {actions : List Action} {pattern other : Pattern}

/-- Pages in different colours differ in the tags of the colours of lines, and in no others. -/
theorem tagStarts_recolour (hinj : Function.Injective colour) (hnone : colour noColour = noColour)
    (h : patternOfActions actions = .ok pattern)
    (h' : patternOfActions (actions.map (Action.recolour colour label)) = .ok other)
    {text text' : String} (ht : render pattern = .ok text) (ht' : render other = .ok text') :
    ∃ grid, Grid.ofPattern pattern (pattern.size + 1) = .ok grid ∧
      tagStarts text + tagsIn ((gridLineColours grid).map colour) =
        tagStarts text' + tagsIn (gridLineColours grid) := by
  obtain ⟨grid, hg, htags⟩ := tagStarts_of_render ht
  obtain ⟨grid', hg', htags'⟩ := tagStarts_of_render ht'
  rw [size_recolour h h'] at hg' htags'
  have hlook := look_recolour hinj hnone h h' hg hg'
  have hlines : gridLineColours grid' = (gridLineColours grid).map colour := by
    rw [gridLineColours, gridLineColours, Grid.extent_ofPattern hg', Grid.extent_ofPattern hg,
      List.map_flatMap]
    simp only [hlook, lineColours_recolour]
  rw [usage_size_recolour hinj hnone h h', hlines, List.length_map] at htags'
  refine ⟨grid, hg, ?_⟩
  omega

/-- If palettes are given other colours, different ones for different colours, the tags of a page
stay as many, but for those in the colours of lines. Colours of other stitches and labels add no
tags at all. -/
theorem recoloured_page_tags (hinj : Function.Injective colour)
    (hnone : colour noColour = noColour) (h : patternOfActions actions = .ok pattern)
    (h' : patternOfActions (actions.map (Action.recolour colour label)) = .ok other)
    {text text' : String} (ht : render pattern = .ok text) (ht' : render other = .ok text') :
    (∃ grid, Grid.ofPattern pattern (pattern.size + 1) = .ok grid ∧
      tagStarts text + tagsIn ((gridLineColours grid).map colour) =
        tagStarts text' + tagsIn (gridLineColours grid)) ∧
    ((∀ part ∈ pattern.outline, part.1.mode.isLine = true →
        '<' ∉ part.1.colour.toList ∧ '<' ∉ (colour part.1.colour).toList) →
      tagStarts text = tagStarts text') := by
  obtain ⟨grid, hg, htags⟩ := tagStarts_recolour hinj hnone h h' ht ht'
  refine ⟨⟨grid, hg, htags⟩, fun hplain => ?_⟩
  have hline : ∀ c ∈ gridLineColours grid, '<' ∉ c.toList ∧ '<' ∉ (colour c).toList := by
    intro c hc
    obtain ⟨x, y, mode, hmode, hs⟩ := exists_slot_of_mem_gridLineColours hc
    obtain ⟨part, hpart, hstrand, _⟩ := Grid.exists_part_of_slot (.painted h) hg hs
    have hboth := hplain part hpart
    rw [hstrand] at hboth
    exact hboth hmode
  have hold : tagsIn (gridLineColours grid) = 0 := tagsIn_eq_zero fun c hc => (hline c hc).1
  have hnew : tagsIn ((gridLineColours grid).map colour) = 0 := by
    apply tagsIn_eq_zero
    intro new hnew
    obtain ⟨c, hc, rfl⟩ := List.mem_map.mp hnew
    exact (hline c hc).2
  omega

end Recoloured

/-- A pattern that is not too large and has no diagonals has a page. -/
theorem exists_page {actions : List Action} {n : Nat} {outline : List (Strand × List Cell)}
    (h : (patternOfActions actions).map (fun p => (p.size, p.outline)) = .ok (n, outline))
    (hn : n ≤ 2047) (hstraight : ∀ part ∈ outline,
      part.1.mode ≠ .diagonalBackslash ∧ part.1.mode ≠ .diagonalSlash) :
    ∃ pattern text, patternOfActions actions = .ok pattern ∧ pattern.size = n ∧
      pattern.outline = outline ∧ render pattern = .ok text := by
  obtain ⟨pattern, hp, hparts⟩ := map_eq_ok_iff.mp h
  obtain ⟨rfl, rfl⟩ := Prod.mk.inj hparts
  obtain ⟨chart, hchart⟩ :=
    (exists_chart_eq_ok_iff (.painted hp) hn).mpr (not_hasConflict_of_straight hstraight)
  exact ⟨pattern, _, hp, rfl, rfl, map_eq_ok_iff.mpr ⟨chart, hchart, rfl⟩⟩

/-- A red line, and a cross stitch whose colour looks like a tag. -/
def taggedCross : List Action :=
  let palette : Palette := (Std.ExtTreeMap.empty.insert 'a' ⟨'a', "red", "red"⟩).insert
    'b' ⟨'b', "<b>", "<b>"⟩
  [⟨palette, some .horizontalLine, ["a"], ⟨0, 0⟩⟩, ⟨palette, some .crossStitch, ["ab"], ⟨0, 0⟩⟩]

/-- The colour that looks like a tag is exchanged for white. -/
def whiten : String → String :=
  Equiv.swap "<b>" "white"

theorem whiten_injective : Function.Injective whiten :=
  (Equiv.swap "<b>" "white").injective

theorem whiten_noColour : whiten noColour = noColour := by decide

theorem taggedCross_tags :
    ∃ pattern other text text', patternOfActions taggedCross = .ok pattern ∧
      patternOfActions (taggedCross.map (Action.recolour whiten whiten)) = .ok other ∧
      render pattern = .ok text ∧ render other = .ok text' ∧ tagStarts text = tagStarts text' := by
  have hmap : (patternOfActions taggedCross).map (fun p => (p.size, p.outline)) =
      .ok (2, [(⟨"red", .horizontalLine⟩, [⟨1, 1⟩]), (⟨"red", .crossStitch⟩, [⟨1, 1⟩]),
        (⟨"<b>", .crossStitch⟩, [⟨2, 1⟩])]) := by
    decide +kernel
  have hmap' : (patternOfActions (taggedCross.map (Action.recolour whiten whiten))).map
      (fun p => (p.size, p.outline)) =
        .ok (2, [(⟨"red", .horizontalLine⟩, [⟨1, 1⟩]), (⟨"red", .crossStitch⟩, [⟨1, 1⟩]),
          (⟨"white", .crossStitch⟩, [⟨2, 1⟩])]) := by
    decide +kernel
  obtain ⟨pattern, text, hp, _, houtline, ht⟩ := exists_page hmap (by decide) (by decide)
  obtain ⟨other, text', hp', _, _, ht'⟩ := exists_page hmap' (by decide) (by decide)
  obtain ⟨_, hequal⟩ := recoloured_page_tags whiten_injective whiten_noColour hp hp' ht ht'
  refine ⟨pattern, other, text, text', hp, hp', ht, ht', hequal ?_⟩
  rw [houtline]
  decide +kernel

/-- A line whose colour looks like a tag. -/
def taggedLine : List Action :=
  [⟨Std.ExtTreeMap.empty.insert 'a' ⟨'a', "<b>", "<b>"⟩, some .horizontalLine, ["a"], ⟨0, 0⟩⟩]

/-- The colour of the line is a tag of the page. -/
theorem taggedLine_tags :
    ∃ pattern other text text', Function.Injective whiten ∧ whiten noColour = noColour ∧
      patternOfActions taggedLine = .ok pattern ∧
      patternOfActions (taggedLine.map (Action.recolour whiten whiten)) = .ok other ∧
      render pattern = .ok text ∧ render other = .ok text' ∧
      tagStarts text' < tagStarts text := by
  have hmap : (patternOfActions taggedLine).map (fun p => (p.size, p.outline)) =
      .ok (1, [(⟨"<b>", .horizontalLine⟩, [⟨1, 1⟩])]) := by
    decide +kernel
  have hmap' : (patternOfActions (taggedLine.map (Action.recolour whiten whiten))).map
      (fun p => (p.size, p.outline)) = .ok (1, [(⟨"white", .horizontalLine⟩, [⟨1, 1⟩])]) := by
    decide +kernel
  obtain ⟨pattern, text, hp, hsize, houtline, ht⟩ := exists_page hmap (by decide) (by decide)
  obtain ⟨other, text', hp', _, _, ht'⟩ := exists_page hmap' (by decide) (by decide)
  obtain ⟨grid, hg, htags⟩ := tagStarts_recolour whiten_injective whiten_noColour hp hp' ht ht'
  have hslot : (grid.look 1 1).slot .horizontalLine = some "<b>" :=
    (Grid.slot_look hg (by omega) (by omega) _).trans
      ((lastColour_strokes hp 1 1 _).trans (by decide +kernel))
  have hone : tagStarts "<b>" ≤ tagsIn (gridLineColours grid) :=
    List.le_sum_of_mem (List.mem_map_of_mem (mem_gridLineColours_of_horizontal hslot))
  have hnone : tagsIn ((gridLineColours grid).map whiten) = 0 := by
    apply tagsIn_eq_zero
    intro new hnew
    obtain ⟨c, hc, rfl⟩ := List.mem_map.mp hnew
    obtain ⟨x, y, mode, _, hs⟩ := exists_slot_of_mem_gridLineColours hc
    obtain ⟨part, hpart, hstrand, _⟩ := Grid.exists_part_of_slot (.painted hp) hg hs
    rw [houtline, List.mem_singleton] at hpart
    have hcolour : c = "<b>" := by
      rw [hpart] at hstrand
      exact (congrArg Strand.colour hstrand).symm
    rw [hcolour]
    decide +kernel
  have htag : tagStarts "<b>" = 1 := by decide +kernel
  refine ⟨pattern, other, text, text', whiten_injective, whiten_noColour, hp, hp', ht, ht', ?_⟩
  omega

end CrossStitch.Html
