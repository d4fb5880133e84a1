import CrossStitch.Proofs.Pattern.Placement
import CrossStitch.Proofs.Render.Canvas

/-! How far the stitches of a pattern reach on a grid. A grid has something at a position
when an entry has the cell there, however large the grid is. Patterns that come of painting,
and patterns of which only the size is known, have nothing beyond their size. So all grids
that are larger than a pattern show the same. -/

namespace CrossStitch

/-- The patterns that can be drawn: painted ones, and blank ones of a given size. -/
inductive Pattern.Made : Pattern → Prop
  | painted {actions : List Action} {pattern : Pattern}
      (h : patternOfActions actions = .ok pattern) : Made pattern
  | blank {size : Int} {pattern : Pattern} (h : Pattern.blank size = .ok pattern) : Made pattern

/-- An entry of the mode has the cell of the position. -/
def Pattern.Stitched (pattern : Pattern) (x y : Nat) (mode : StitchMode) : Prop :=
  ∃ entry ∈ pattern.entries, entry.strand.mode = mode ∧
    ∃ cell ∈ entry.cells, cell.x.toInt = x ∧ cell.y.toInt = y

/-- The strands with their cells. -/
def Pattern.outline (pattern : Pattern) : List (Strand × List Cell) :=
  pattern.entries.map fun entry => (entry.strand, entry.cells)

theorem Pattern.stitched_iff_outline {pattern : Pattern} {x y : Nat} {mode : StitchMode} :
    pattern.Stitched x y mode ↔ ∃ part ∈ pattern.outline, part.1.mode = mode ∧
      ∃ cell ∈ part.2, cell.x.toInt = x ∧ cell.y.toInt = y := by
  simp [Pattern.Stitched, Pattern.outline]

/-! ### Drawn patterns -/

theorem Pattern.strokes_of_entries_nil {pattern : Pattern} (h : pattern.entries = []) :
    pattern.strokes = [] := by
  simp [Pattern.strokes, h]

theorem Pattern.entries_of_blank {size : Int} {pattern : Pattern}
    (h : Pattern.blank size = .ok pattern) : pattern.entries = [] := by
  obtain ⟨n, _, rfl⟩ := map_eq_ok_iff.mp h
  rfl

theorem Pattern.Made.filled {pattern : Pattern} (hp : pattern.Made) :
    ∀ entry ∈ pattern.entries, entry.Filled := by
  cases hp with
  | painted h =>
    obtain ⟨builder, hadd, hbuild⟩ := bind_eq_ok_iff.mp h
    obtain ⟨size, _, rfl⟩ := map_eq_ok_iff.mp hbuild
    rw [← Builder.addEach_of_addAll hadd]
    exact (Builder.kept_books.addEach Builder.books_start _).filled
  | blank h => simp [Pattern.entries_of_blank h]

theorem colour_ne_of_mem_dabs {action : Action} {dab : Dab} (h : dab ∈ action.dabs) :
    dab.strand.colour ≠ noColour := by
  rw [Action.dabs] at h
  split at h
  · cases h
  · obtain ⟨symbol, _, hd⟩ := List.mem_filterMap.mp h
    rw [Symbol.dab?] at hd
    split at hd
    · cases hd
    · split at hd
      · cases hd
      next hc =>
        cases hd
        exact hc

/-- No stroke lies beyond the size of a pattern, as long as 32 bits can hold the size. -/
theorem Pattern.Made.stroke_le_size {pattern : Pattern} (hp : pattern.Made)
    (hsize : pattern.size < 2 ^ 31) {stroke : Stroke} (hs : stroke ∈ pattern.strokes) :
    stroke.cell.x.toInt ≤ pattern.size ∧ stroke.cell.y.toInt ≤ pattern.size := by
  cases hp with
  | blank h =>
    rw [Pattern.strokes_of_entries_nil (Pattern.entries_of_blank h)] at hs
    cases hs
  | painted h =>
    have hd := mem_of_mem_numbered ((mem_strokes_iff h).mp hs).mem
    have hc : stroke.strand.colour ≠ noColour := by
      obtain ⟨action, _, ha⟩ := List.mem_flatMap.mp hd
      exact colour_ne_of_mem_dabs ha
    obtain ⟨x, y, hat, hcell⟩ := (mem_flatMap_dabs_iff hc).mp hd
    have hle := hat.le_size h
    rw [hcell, Int32.toInt_ofInt_of_le hat.lower.1 (by omega),
      Int32.toInt_ofInt_of_le hat.lower.2 (by omega)]
    exact hle

/-! ### Grids of a pattern -/

namespace Grid

theorem ofPattern_eq_ok_iff {pattern : Pattern} {extent : Nat} {grid : Grid} :
    ofPattern pattern extent = .ok grid ↔
      extent * extent ≤ maxGridCells ∧ grid = pattern.strokes.foldl stitch (blank extent) := by
  rw [ofPattern]
  split
  next h => simp [h, eq_comm]
  next h => simp [h]

variable {pattern : Pattern} {extent : Nat} {grid : Grid}

theorem extent_ofPattern (h : ofPattern pattern extent = .ok grid) : grid.extent = extent := by
  obtain ⟨_, rfl⟩ := ofPattern_eq_ok_iff.mp h
  exact extent_foldl_stitch (blank extent) _

theorem look_eq_blank {x y : Nat} (h : ¬ (x < grid.extent ∧ y < grid.extent)) :
    grid.look x y = Stitches.blank :=
  if_neg h

theorem slot_look (h : ofPattern pattern extent = .ok grid) {x y : Nat} (hx : x < extent)
    (hy : y < extent) (mode : StitchMode) :
    ((grid.look x y).slot mode) = lastColour (pattern.strokes.map Stroke.dab) x y mode := by
  obtain ⟨_, rfl⟩ := ofPattern_eq_ok_iff.mp h
  exact slot_foldl_stitch hx hy mode _

end Grid

theorem isSome_lastColour {dabs : List Dab} {x y : Nat} {mode : StitchMode} :
    (lastColour dabs x y mode).isSome ↔ ∃ dab ∈ dabs, dab.IsOn x y mode := by
  simp [lastColour]

theorem exists_dab_of_lastColour {dabs : List Dab} {x y : Nat} {mode : StitchMode} {colour : String}
    (h : lastColour dabs x y mode = some colour) :
    ∃ dab ∈ dabs, dab.IsOn x y mode ∧ dab.strand.colour = colour := by
  obtain ⟨dab, hlast, rfl⟩ := Option.map_eq_some_iff.mp h
  obtain ⟨hmem, hon⟩ := List.mem_filter.mp (List.mem_of_getLast? hlast)
  exact ⟨dab, hmem, of_decide_eq_true hon, rfl⟩

/-- The cells of an entry are those with a stroke of its strand. -/
theorem Pattern.Made.exists_stroke_iff {pattern : Pattern} (hp : pattern.Made) {cell : Cell}
    {strand : Strand} :
    (∃ stroke ∈ pattern.strokes, stroke.dab = ⟨cell, strand⟩) ↔
      ∃ entry ∈ pattern.entries, entry.strand = strand ∧ cell ∈ entry.cells := by
  simp only [Pattern.mem_strokes]
  constructor
  · rintro ⟨stroke, ⟨entry, he, hn, hs⟩, hdab⟩
    cases hdab
    refine ⟨entry, he, hs, ((hp.filled entry he).mem_cells _).mpr ?_⟩
    exact Std.ExtTreeMap.isSome_getElem?_iff_mem.mp (by rw [hn]; rfl)
  · rintro ⟨entry, he, hs, hc⟩
    have hm := ((hp.filled entry he).mem_cells cell).mp hc
    obtain ⟨number, hn⟩ := Option.isSome_iff_exists.mp
      (Std.ExtTreeMap.isSome_getElem?_iff_mem.mpr hm)
    exact ⟨⟨number, cell, strand⟩, ⟨entry, he, hn, hs⟩, rfl⟩

/-- A position has a stroke in a mode if an entry of the mode has the position's cell. -/
theorem Pattern.Made.stitched_iff {pattern : Pattern} (hp : pattern.Made) {x y : Nat}
    {mode : StitchMode} :
    pattern.Stitched x y mode ↔ ∃ stroke ∈ pattern.strokes, stroke.dab.IsOn x y mode := by
  constructor
  · rintro ⟨entry, he, hmode, cell, hc, hat⟩
    obtain ⟨stroke, hs, hdab⟩ := hp.exists_stroke_iff.mpr ⟨entry, he, rfl, hc⟩
    exact ⟨stroke, hs, hdab ▸ ⟨hat.1, hat.2, hmode⟩⟩
  · rintro ⟨stroke, hs, hx, hy, hmode⟩
    obtain ⟨entry, he, hstrand, hc⟩ := hp.exists_stroke_iff.mp ⟨stroke, hs, rfl⟩
    exact ⟨entry, he, hstrand ▸ hmode, _, hc, hx, hy⟩

section Drawn

variable {pattern : Pattern} {extent : Nat} {grid : Grid}

theorem Grid.isSome_slot_iff (hp : pattern.Made) (h : ofPattern pattern extent = .ok grid)
    {x y : Nat} (hx : x < extent) (hy : y < extent) (mode : StitchMode) :
    ((grid.look x y).slot mode).isSome ↔ pattern.Stitched x y mode := by
  rw [slot_look h hx hy, isSome_lastColour, hp.stitched_iff]
  simp

/-- What a slot has is the colour of an entry with the cell. -/
theorem Grid.exists_part_of_slot (hp : pattern.Made) (h : ofPattern pattern extent = .ok grid)
    {x y : Nat} {mode : StitchMode} {colour : String}
    (hs : (grid.look x y).slot mode = some colour) :
    ∃ part ∈ pattern.outline, part.1 = ⟨colour, mode⟩ ∧
      ∃ cell ∈ part.2, cell.x.toInt = x ∧ cell.y.toInt = y := by
  by_cases hin : x < extent ∧ y < extent
  · rw [slot_look h hin.1 hin.2] at hs
    obtain ⟨_, hd, ⟨hx, hy, rfl⟩, rfl⟩ := exists_dab_of_lastColour hs
    obtain ⟨stroke, hstroke, rfl⟩ := List.mem_map.mp hd
    obtain ⟨entry, he, hstrand, hc⟩ := hp.exists_stroke_iff.mp ⟨stroke, hstroke, rfl⟩
    exact ⟨_, List.mem_map_of_mem he, hstrand, _, hc, hx, hy⟩
  · rw [look_eq_blank (by rwa [extent_ofPattern h])] at hs
    cases mode <;> cases hs

/-- Nothing is stitched beyond the size. -/
theorem Pattern.Made.le_size_of_stitched (hp : pattern.Made) (hsize : pattern.size < 2 ^ 31)
    {x y : Nat} {mode : StitchMode} (h : pattern.Stitched x y mode) :
    x ≤ pattern.size ∧ y ≤ pattern.size := by
  obtain ⟨stroke, hs, hx, hy, _⟩ := hp.stitched_iff.mp h
  have hle := hp.stroke_le_size hsize hs
  have hx : stroke.cell.x.toInt = x := hx
  have hy : stroke.cell.y.toInt = y := hy
  omega

/-- A grid that can be made is small enough for 32 bits. -/
theorem Grid.lt_of_ofPattern (h : ofPattern pattern extent = .ok grid) : extent < 2 ^ 31 := by
  have hcells := (ofPattern_eq_ok_iff.mp h).1
  by_contra hlarge
  have := Nat.mul_le_mul (Nat.le_of_not_lt hlarge) (Nat.le_of_not_lt hlarge)
  simp only [maxGridCells] at hcells
  omega

theorem Grid.look_eq_blank_of_size_lt (hp : pattern.Made) (h : ofPattern pattern extent = .ok grid)
    (hsize : pattern.size < extent) {x y : Nat} (hxy : pattern.size < x ∨ pattern.size < y) :
    grid.look x y = Stitches.blank := by
  by_cases hin : x < extent ∧ y < extent
  · apply Stitches.eq_of_slot
    intro mode
    have hlarge := lt_of_ofPattern h
    have hnone : ¬ ((grid.look x y).slot mode).isSome := by
      rw [isSome_slot_iff hp h hin.1 hin.2]
      intro hs
      have := hp.le_size_of_stitched (by omega) hs
      omega
    rw [Option.not_isSome_iff_eq_none.mp hnone]
    cases mode <;> rfl
  · apply look_eq_blank
    rwa [extent_ofPattern h]

/-- A grid larger than the pattern has all that is stitched, wherever one looks. -/
theorem Grid.isSome_slot_iff_of_size_lt (hp : pattern.Made)
    (h : ofPattern pattern extent = .ok grid) (hsize : pattern.size < extent) (x y : Nat)
    (mode : StitchMode) :
    ((grid.look x y).slot mode).isSome ↔ pattern.Stitched x y mode := by
  by_cases hin : x ≤ pattern.size ∧ y ≤ pattern.size
  · exact isSome_slot_iff hp h (by omega) (by omega) mode
  · have hlarge := lt_of_ofPattern h
    have hnone : ¬ pattern.Stitched x y mode := fun hs =>
      hin (hp.le_size_of_stitched (by omega) hs)
    rw [look_eq_blank_of_size_lt hp h hsize (by omega)]
    cases mode <;> simp [hnone, Stitches.slot, Stitches.blank]

/-- Grids larger than the pattern show the same. -/
theorem Grid.look_eq_look (hp : pattern.Made) (h : ofPattern pattern extent = .ok grid)
    (hsize : pattern.size < extent) {extent' : Nat} {other : Grid}
    (ho : ofPattern pattern extent' = .ok other) (hsize' : pattern.size < extent') (x y : Nat) :
    grid.look x y = other.look x y := by
  by_cases hin : x ≤ pattern.size ∧ y ≤ pattern.size
  · apply Stitches.eq_of_slot
    intro mode
    rw [slot_look h (by omega) (by omega), slot_look ho (by omega) (by omega)]
  · rw [look_eq_blank_of_size_lt hp h hsize (by omega),
      look_eq_blank_of_size_lt hp ho hsize' (by omega)]

end Drawn

end CrossStitch
