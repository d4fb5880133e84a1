import CrossStitch.Proofs.Render.Agreement
import CrossStitch.Proofs.Render.RowOrder
import CrossStitch.Proofs.Text.Padded
import Mathlib.Data.List.Sort
import Mathlib.Data.Prod.Lex
import Mathlib.Data.String.Basic

/-! The cells of a page by name. The id of a cell is the text of its column and the text of its row
with a mark between them. On a page these texts are all equally long, so they are in the order of
the numbers. Hence no two cells have one id, and the cells stand in the order of their rows and, in
a row, of their columns, also if they are compared as texts. -/

namespace CrossStitch.Html

/-! ### Names -/

/-- The text in front of the mark. -/
def PageCell.columnText (cell : PageCell) : String :=
  String.ofList (cell.id.toList.takeWhile (· != 'x'))

/-- The text behind the mark. -/
def PageCell.rowText (cell : PageCell) : String :=
  String.ofList ((cell.id.toList.dropWhile (· != 'x')).drop 1)

/-- What cells are sorted by. -/
def PageCell.nameKey (cell : PageCell) : String ×ₗ String :=
  toLex (cell.rowText, cell.columnText)

/-- The cell is named for its position, in numbers of one width, and it is styled for what the grid
has there. -/
structure PageCell.IsAt (grid : Grid) (width column row : Nat) (cell : PageCell) : Prop where
  id : cell.id = cell.columnText ++ "x" ++ cell.rowText
  style : cell.style = String.intercalate "; " (styleParts (grid.look column row))
  column : Text.IsPadded width column cell.columnText
  row : Text.IsPadded width row cell.rowText

variable {grid : Grid} {width column row : Nat} {cell : PageCell}

theorem isAt_of_id {columnText rowText : String} (hid : cell.id = columnText ++ "x" ++ rowText)
    (hc : Text.IsPadded width column columnText) (hr : Text.IsPadded width row rowText)
    (hs : cell.style = String.intercalate "; " (styleParts (grid.look column row))) :
    cell.IsAt grid width column row := by
  have hchars : cell.id.toList = columnText.toList ++ 'x' :: rowText.toList := by
    rw [hid, String.toList_append, String.toList_append, List.append_assoc]
    rfl
  -- the mark is not a digit, so the first one is the one between the numbers
  have hfree : ∀ c ∈ columnText.toList, (c != 'x') = true := by
    intro c h
    rw [bne_iff_ne]
    rintro rfl
    exact absurd (hc.isDigit _ h) (by decide)
  have hcolumn : cell.columnText = columnText := by
    rw [PageCell.columnText, hchars, List.takeWhile_append_of_pos hfree,
      List.takeWhile_cons_of_neg (by decide), List.append_nil, String.ofList_toList]
  have hrow : cell.rowText = rowText := by
    rw [PageCell.rowText, hchars, List.dropWhile_append_of_pos hfree,
      List.dropWhile_cons_of_neg (by decide), List.drop_one, List.tail_cons, String.ofList_toList]
  exact ⟨by rw [hcolumn, hrow, hid], hs, hcolumn ▸ hc, hrow ▸ hr⟩

theorem isAt_pageCell (hc : (toString column).length ≤ width)
    (hr : (toString row).length ≤ width) :
    (pageCell grid width column row).IsAt grid width column row :=
  isAt_of_id rfl (Text.isPadded_padded hc) (Text.isPadded_padded hr) rfl

theorem PageCell.IsAt.length_id (h : cell.IsAt grid width column row) :
    cell.id.length = 2 * width + 1 := by
  rw [h.id, String.length_append, String.length_append, h.column.length, h.row.length]
  have hmark : "x".length = 1 := rfl
  omega

/-- Names are in the order of the positions. -/
theorem PageCell.IsAt.nameKey_lt (h : cell.IsAt grid width column row) {other : PageCell}
    {column' row' : Nat} (h' : other.IsAt grid width column' row')
    (hbefore : Precedes column row column' row') : cell.nameKey < other.nameKey := by
  rw [PageCell.nameKey, PageCell.nameKey, Prod.Lex.toLex_lt_toLex]
  rcases hbefore with hrow | ⟨rfl, hcolumn⟩
  · exact .inl (h.row.lt h'.row hrow)
  · exact .inr ⟨h.row.unique h'.row, h.column.lt h'.column hcolumn⟩

/-! ### All cells -/

/-- Each cell of a page has room for the numbers of its position. -/
theorem isAt_of_le {pattern : Pattern} (hc : column ≤ pattern.size) (hr : row ≤ pattern.size) :
    (pageCell grid (idWidth pattern.size) column row).IsAt grid (idWidth pattern.size) column
      row := by
  have hwidth : (toString pattern.size).length ≤ idWidth pattern.size := Nat.le_add_right _ _
  exact isAt_pageCell ((Text.length_toString_le hc).trans hwidth)
    ((Text.length_toString_le hr).trans hwidth)

theorem cells_inOrder (pattern : Pattern) (grid : Grid) :
    (wholeChart pattern grid).cells.Pairwise fun cell other => cell.nameKey < other.nameKey := by
  rw [wholeChart_cells, List.pairwise_map]
  refine (positions_inOrder (pattern.size + 1)).imp_of_mem ?_
  rintro ⟨column, row⟩ ⟨column', row'⟩ h h' hbefore
  obtain ⟨hc, hr⟩ := mem_positions.mp h
  obtain ⟨hc', hr'⟩ := mem_positions.mp h'
  exact (isAt_of_le (Nat.le_of_lt_succ hc) (Nat.le_of_lt_succ hr)).nameKey_lt
    (isAt_of_le (Nat.le_of_lt_succ hc') (Nat.le_of_lt_succ hr')) hbefore

/-- Cells that are in order are found again by sorting. -/
theorem mergeSort_eq_of_inOrder {cells sorted : List PageCell} (h : cells.Perm sorted)
    (ho : sorted.Pairwise fun cell other => cell.nameKey < other.nameKey) :
    cells.mergeSort (fun cell other => cell.nameKey ≤ other.nameKey) = sorted := by
  have hdistinct : (sorted.map PageCell.nameKey).Nodup :=
    List.pairwise_map.mpr (ho.imp fun hlt => hlt.ne)
  have hsort := (List.mergeSort_perm cells fun cell other =>
    decide (cell.nameKey ≤ other.nameKey)).trans h
  have hmerged := List.pairwise_mergeSort' (Order.Preimage PageCell.nameKey (· ≤ ·)) cells
  refine hsort.eq_of_pairwise (fun a b ha hb hab hba => ?_) hmerged (ho.imp fun hlt => hlt.le)
  have hkey : a.nameKey = b.nameKey := le_antisymm hab hba
  exact List.inj_on_of_nodup_map hdistinct (hsort.mem_iff.mp ha) hb hkey

/-- A page has a cell for every position up to the size of the pattern, row by row. Each is named
for its column and row and styled for what the grid has there. All ids are equally long, no two are
the same, and to sort the cells by the texts of their rows and columns gives back their order. -/
theorem cells_named_in_order {pattern : Pattern} {page : PageChart} (h : chart pattern = .ok page) :
    ∃ grid, Grid.ofPattern pattern (pattern.size + 1) = .ok grid ∧
      page.cells.length = (pattern.size + 1) ^ 2 ∧
      (∀ column row, column ≤ pattern.size → row ≤ pattern.size → ∃ cell,
        page.cells[row * (pattern.size + 1) + column]? = some cell ∧
          cell.IsAt grid ((toString pattern.size).length + 2) column row) ∧
      (∀ cell ∈ page.cells, cell.id.length = 2 * ((toString pattern.size).length + 2) + 1) ∧
      (page.cells.map PageCell.id).Nodup ∧
      ∀ cells : List PageCell, cells.Perm page.cells →
        cells.mergeSort (fun cell other => cell.nameKey ≤ other.nameKey) = page.cells := by
  obtain ⟨grid, hg, _, rfl⟩ := chart_eq_ok_iff.mp h
  have hinOrder := cells_inOrder pattern grid
  refine ⟨grid, hg, ?_, ?_, ?_, ?_, fun cells hperm => mergeSort_eq_of_inOrder hperm hinOrder⟩
  · rw [wholeChart_cells, List.length_map, length_positions, Nat.pow_two]
  · exact fun column row hc hr => ⟨_, getElem?_cells hc hr, isAt_of_le hc hr⟩
  · intro cell hcell
    rw [wholeChart_cells] at hcell
    obtain ⟨⟨column, row⟩, hposition, rfl⟩ := List.mem_map.mp hcell
    obtain ⟨hc, hr⟩ := mem_positions.mp hposition
    exact (@isAt_of_le grid _ _ _ (Nat.le_of_lt_succ hc) (Nat.le_of_lt_succ hr)).length_id
  · refine List.pairwise_map.mpr (hinOrder.imp fun hlt hid => ?_)
    -- the texts are read from the id
    simp only [PageCell.nameKey, PageCell.rowText, PageCell.columnText, hid] at hlt
    exact absurd hlt (lt_irrefl _)

/-- A row of ten cross stitches. -/
def tenCrosses : List Action :=
  let palette : Palette := Std.ExtTreeMap.empty.insert 'a' ⟨'a', "red", "red"⟩
  [⟨palette, some .crossStitch, ["aaaaaaaaaa"], ⟨0, 0⟩⟩]

/-- The last two cells of the first row that is not margin stand in the order of their names, also
where the number of the column has got a digit more. -/
theorem tenCrosses_cells :
    ∃ pattern page ninth tenth, patternOfActions tenCrosses = .ok pattern ∧
      chart pattern = .ok page ∧ page.cells.length = 121 ∧
      page.cells[20]? = some ninth ∧ ninth.id = "0009x0001" ∧
      page.cells[21]? = some tenth ∧ tenth.id = "0010x0001" ∧
      page.cells.reverse.mergeSort (fun cell other => cell.nameKey ≤ other.nameKey) =
        page.cells := by
  have hmap : (patternOfActions tenCrosses).map (fun p => (p.size, p.outline)) =
      .ok (10, [(⟨"red", .crossStitch⟩,
        (List.range 10).map fun n => ⟨Int32.ofNat (n + 1), 1⟩)]) := by
    decide +kernel
  obtain ⟨pattern, hp, hparts⟩ := map_eq_ok_iff.mp hmap
  obtain ⟨hsize, houtline⟩ := Prod.mk.inj hparts
  have hfree : ¬ pattern.HasConflict := not_hasConflict_of_straight (by rw [houtline]; decide)
  obtain ⟨page, hpage⟩ := (exists_chart_eq_ok_iff (.painted hp) (by omega)).mpr hfree
  obtain ⟨grid, _, hlength, hcells, _, _, hsort⟩ := cells_named_in_order hpage
  rw [hsize] at hlength hcells
  have hone : Text.IsPadded 4 1 "0001" := ⟨rfl, 3, rfl⟩
  have hnine : Text.IsPadded 4 9 "0009" := ⟨rfl, 3, rfl⟩
  have hten : Text.IsPadded 4 10 "0010" := ⟨rfl, 2, rfl⟩
  obtain ⟨ninth, hninth, hat⟩ := hcells 9 1 (by decide) (by decide)
  obtain ⟨tenth, htenth, hat'⟩ := hcells 10 1 (by decide) (by decide)
  refine ⟨pattern, page, ninth, tenth, hp, hpage, hlength, hninth, ?_, htenth, ?_,
    hsort _ (List.reverse_perm _)⟩
  · rw [hat.id, hat.column.unique hnine, hat.row.unique hone]
    rfl
  · rw [hat'.id, hat'.column.unique hten, hat'.row.unique hone]
    rfl

end CrossStitch.Html
