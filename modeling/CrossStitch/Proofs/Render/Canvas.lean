import CrossStitch.Proofs.Pattern.Painting

/-! Patterns drawn on a grid. The grid of a pattern is the one that comes of painting
dab after dab on an empty square: at every position and in every mode it shows the last
dab made there. What a pattern forgets of its dabs is only what was painted over. -/

namespace CrossStitch

/-- A dab on a position of the chart in one of the modes. -/
def Dab.IsOn (dab : Dab) (x y : Nat) (mode : StitchMode) : Prop :=
  dab.cell.x.toInt = x ∧ dab.cell.y.toInt = y ∧ dab.strand.mode = mode

instance (dab : Dab) (x y : Nat) (mode : StitchMode) : Decidable (dab.IsOn x y mode) :=
  inferInstanceAs (Decidable (_ ∧ _))

/-- The colour of the last dab on a position in a mode. -/
def lastColour (dabs : List Dab) (x y : Nat) (mode : StitchMode) : Option String :=
  (dabs.filter fun dab => dab.IsOn x y mode).getLast?.map fun dab => dab.strand.colour

theorem lastColour_concat (dabs : List Dab) (dab : Dab) (x y : Nat) (mode : StitchMode) :
    lastColour (dabs ++ [dab]) x y mode =
      if dab.IsOn x y mode then some dab.strand.colour else lastColour dabs x y mode := by
  by_cases h : dab.IsOn x y mode <;> simp [lastColour, List.filter_append, h]

/-- The dab that a stroke stands for. -/
def Stroke.dab (stroke : Stroke) : Dab := ⟨stroke.cell, stroke.strand⟩

theorem map_dab_numbered (dabs : List Dab) : (numbered dabs).map Stroke.dab = dabs := by
  have h : Stroke.dab ∘ (fun p : Dab × Nat => ⟨p.2, p.1.cell, p.1.strand⟩) = Prod.fst := rfl
  simp only [numbered, List.map_map]
  rw [h, List.zipIdx_map_fst]

/-! ### Grids -/

theorem Stitches.eq_of_slot {a b : Stitches} (h : ∀ mode, a.slot mode = b.slot mode) : a = b := by
  cases a
  cases b
  rw [Stitches.mk.injEq]
  exact ⟨h .crossStitch, h .topEdge, h .bottomEdge, h .leftEdge, h .rightEdge,
    h .horizontalLine, h .verticalLine, h .diagonalBackslash, h .diagonalSlash⟩

namespace Grid

/-- A square of positions. -/
def IsSquare (grid : Grid) : Prop :=
  grid.cells.size = grid.extent * grid.extent

theorem isSquare_blank (extent : Nat) : (blank extent).IsSquare := by
  simp [IsSquare, blank]

theorem stitch_extent (grid : Grid) (stroke : Stroke) :
    (grid.stitch stroke).extent = grid.extent := by
  unfold stitch
  split <;> rfl

theorem IsSquare.stitch {grid : Grid} (h : grid.IsSquare) (stroke : Stroke) :
    (grid.stitch stroke).IsSquare := by
  unfold IsSquare Grid.stitch
  split
  · exact h
  · rw [Array.size_modify]
    exact h

/-- Positions of a square have different places in store. -/
theorem index_inj {extent x y x' y' : Nat} (hx : x < extent) (hx' : x' < extent)
    (h : y * extent + x = y' * extent + x') : x = x' ∧ y = y' := by
  have hpos : 0 < extent := Nat.lt_of_le_of_lt (Nat.zero_le x) hx
  have hdiv : ∀ {z : Nat} (w : Nat), z < extent → (w * extent + z) / extent = w := by
    intro z w hz
    rw [Nat.mul_comm, Nat.mul_add_div hpos, Nat.div_eq_of_lt hz, Nat.add_zero]
  have hy : y = y' := by
    rw [← hdiv y hx, h, hdiv y' hx']
  subst hy
  exact ⟨Nat.add_left_cancel h, rfl⟩

theorem index?_eq_some_iff {extent i : Nat} {cell : Cell} :
    index? extent cell = some i ↔ ∃ x y : Nat, x < extent ∧ y < extent ∧
      cell.x.toInt = x ∧ cell.y.toInt = y ∧ i = y * extent + x := by
  simp only [index?]
  constructor
  · intro h
    split at h
    next hin =>
      have hi := (Option.some.inj h).symm
      exact ⟨cell.x.toInt.toNat, cell.y.toInt.toNat, by omega, by omega, by omega, by omega, hi⟩
    · cases h
  · rintro ⟨x, y, hx, hy, hcx, hcy, rfl⟩
    rw [hcx, hcy, if_pos (by omega)]
    simp

theorem lt_of_square {extent x y : Nat} (hx : x < extent) (hy : y < extent) :
    y * extent + x < extent * extent := by
  have hle : (y + 1) * extent ≤ extent * extent := Nat.mul_le_mul_right _ hy
  rw [Nat.succ_mul] at hle
  omega

theorem look_of_lt {grid : Grid} {x y : Nat} (hx : x < grid.extent) (hy : y < grid.extent) :
    grid.look x y = grid.cells.getD (y * grid.extent + x) Stitches.blank :=
  if_pos ⟨hx, hy⟩

theorem getD_modify_cells {cells : Array Stitches} {i j : Nat} {f : Stitches → Stitches}
    (hj : j < cells.size) :
    (cells.modify i f).getD j Stitches.blank =
      if i = j then f (cells.getD j Stitches.blank) else cells.getD j Stitches.blank := by
  simp only [Array.getD_eq_getD_getElem?, Array.getElem?_modify, Array.getElem?_eq_getElem hj]
  split <;> rfl

/-- A stroke changes the position it is on, and nothing else. -/
theorem look_stitch {grid : Grid} (h : grid.IsSquare) (stroke : Stroke) {x y : Nat}
    (hx : x < grid.extent) (hy : y < grid.extent) :
    (grid.stitch stroke).look x y =
      if stroke.cell.x.toInt = x ∧ stroke.cell.y.toInt = y then (grid.look x y).put stroke.strand
      else grid.look x y := by
  have hlt : y * grid.extent + x < grid.cells.size := by
    rw [h]
    exact lt_of_square hx hy
  have hplace : stroke.cell.x.toInt = x ∧ stroke.cell.y.toInt = y ↔
      index? grid.extent stroke.cell = some (y * grid.extent + x) := by
    rw [index?_eq_some_iff]
    constructor
    · rintro ⟨hcx, hcy⟩
      exact ⟨x, y, hx, hy, hcx, hcy, rfl⟩
    · rintro ⟨x', y', hx', hy', hcx, hcy, hi⟩
      obtain ⟨rfl, rfl⟩ := index_inj hx hx' hi
      exact ⟨hcx, hcy⟩
  rw [look_of_lt hx hy]
  unfold stitch
  split
  next hnone =>
    have hoff : ¬ (stroke.cell.x.toInt = x ∧ stroke.cell.y.toInt = y) := by
      rw [hplace, hnone]
      exact nofun
    rw [if_neg hoff, look_of_lt hx hy]
  next i hi =>
    show (if x < grid.extent ∧ y < grid.extent then _ else _) = _
    rw [if_pos ⟨hx, hy⟩, getD_modify_cells hlt]
    by_cases hon : stroke.cell.x.toInt = x ∧ stroke.cell.y.toInt = y
    · have hsame := Option.some.inj (hi.symm.trans (hplace.mp hon))
      rw [if_pos hon, if_pos hsame]
    · have hother : i ≠ y * grid.extent + x := by
        rintro rfl
        exact hon (hplace.mpr hi)
      rw [if_neg hon, if_neg hother]

theorem extent_foldl_stitch (grid : Grid) (strokes : List Stroke) :
    (strokes.foldl stitch grid).extent = grid.extent := by
  induction strokes generalizing grid with
  | nil => rfl
  | cons stroke strokes ih => rw [List.foldl_cons, ih, stitch_extent]

theorem isSquare_foldl_stitch {grid : Grid} (h : grid.IsSquare) (strokes : List Stroke) :
    (strokes.foldl stitch grid).IsSquare := by
  induction strokes generalizing grid with
  | nil => exact h
  | cons stroke strokes ih => exact ih (h.stitch stroke)

/-- The slots of a grid after strokes on an empty square. -/
theorem slot_foldl_stitch {extent x y : Nat} (hx : x < extent) (hy : y < extent)
    (mode : StitchMode) (strokes : List Stroke) :
    ((strokes.foldl stitch (blank extent)).look x y).slot mode =
      lastColour (strokes.map Stroke.dab) x y mode := by
  induction strokes using List.reverseRecOn with
  | nil =>
    have hempty : (blank extent).look x y = Stitches.blank := by
      rw [@look_of_lt (blank extent) x y hx hy]
      simp [blank, Array.getD_eq_getD_getElem?, lt_of_square hx hy]
    rw [List.foldl_nil, hempty]
    cases mode <;> rfl
  | append_singleton strokes stroke ih =>
    have hsquare := isSquare_foldl_stitch (isSquare_blank extent) strokes
    have hextent := extent_foldl_stitch (blank extent) strokes
    rw [List.foldl_append, List.foldl_cons, List.foldl_nil, look_stitch hsquare stroke
      (hextent ▸ hx) (hextent ▸ hy), List.map_append, List.map_singleton, lastColour_concat, ← ih]
    by_cases hon : stroke.cell.x.toInt = x ∧ stroke.cell.y.toInt = y
    · rw [if_pos hon, Stitches.slot_put]
      simp [Dab.IsOn, Stroke.dab, hon]
    · have hoff : ¬ stroke.dab.IsOn x y mode := fun h => hon ⟨h.1, h.2.1⟩
      rw [if_neg hon, if_neg hoff]

theorem eq_of_slot {grid other : Grid} (hg : grid.IsSquare) (ho : other.IsSquare)
    (he : grid.extent = other.extent)
    (h : ∀ x y : Nat, x < grid.extent → y < grid.extent → ∀ mode,
      (grid.look x y).slot mode = (other.look x y).slot mode) : grid = other := by
  obtain ⟨extent, cells⟩ := grid
  obtain ⟨extent', cells'⟩ := other
  cases he
  have hsize : cells.size = extent * extent := hg
  have hsize' : cells'.size = extent * extent := ho
  apply congrArg (Grid.mk extent)
  apply Array.ext (hsize.trans hsize'.symm)
  intro i hi hi'
  -- a place in store is the place of just one position
  have hpos : 0 < extent := by
    rcases Nat.eq_zero_or_pos extent with rfl | hpos
    · simp [hsize] at hi
    · exact hpos
  have hx : i % extent < extent := Nat.mod_lt i hpos
  have hy : i / extent < extent := Nat.div_lt_of_lt_mul (hsize ▸ hi)
  have hlook := Stitches.eq_of_slot (h _ _ hx hy)
  rw [@look_of_lt ⟨extent, cells⟩ _ _ hx hy, @look_of_lt ⟨extent, cells'⟩ _ _ hx hy,
    Nat.div_add_mod'] at hlook
  simpa [Array.getD_eq_getD_getElem?, hi, hi'] using hlook

end Grid

/-! ### Patterns -/

theorem strokes_sorted (pattern : Pattern) :
    pattern.strokes.Pairwise fun a b => a.number ≤ b.number := by
  have htrans : ∀ a b c : Stroke, decide (a.number ≤ b.number) = true →
      decide (b.number ≤ c.number) = true → decide (a.number ≤ c.number) = true :=
    fun a b c => by simpa using Nat.le_trans
  have htotal : ∀ a b : Stroke,
      (decide (a.number ≤ b.number) || decide (b.number ≤ a.number)) = true :=
    fun a b => by simpa using Nat.le_total _ _
  exact (List.pairwise_mergeSort htrans htotal _).imp of_decide_eq_true

/-- In order of their numbers, the last of the strokes that meet a condition has the
highest number of them. -/
theorem number_le_of_getLast? {strokes : List Stroke} {p : Stroke → Bool} {stroke last : Stroke}
    (hs : strokes.Pairwise fun a b => a.number ≤ b.number)
    (hl : (strokes.filter p).getLast? = some last) (hm : stroke ∈ strokes)
    (hp : p stroke = true) : stroke.number ≤ last.number := by
  obtain ⟨before, hb⟩ := List.getLast?_eq_some_iff.mp hl
  have hsorted : (strokes.filter p).Pairwise fun a b => a.number ≤ b.number :=
    hs.sublist List.filter_sublist
  have hmem : stroke ∈ strokes.filter p := List.mem_filter.mpr ⟨hm, hp⟩
  rw [hb, List.pairwise_append] at hsorted
  rw [hb, List.mem_append, List.mem_singleton] at hmem
  rcases hmem with hmem | rfl
  · exact hsorted.2.2 stroke hmem last (List.mem_singleton.mpr rfl)
  · exact Nat.le_refl _

/-- Of the dabs that meet a condition, a pattern has the last. -/
theorem getLast?_filter_strokes {actions : List Action} {pattern : Pattern}
    (h : patternOfActions actions = .ok pattern) {p : Stroke → Bool}
    (hp : ∀ a b : Stroke, a.dab = b.dab → p a = p b) :
    (pattern.strokes.filter p).getLast? =
      ((numbered (actions.flatMap Action.dabs)).filter p).getLast? := by
  have hsorted : (numbered (actions.flatMap Action.dabs)).Pairwise fun a b =>
      a.number ≤ b.number := (numbered_increasing _).imp Nat.le_of_lt
  cases hall : ((numbered (actions.flatMap Action.dabs)).filter p).getLast? with
  | none =>
    rw [List.getLast?_eq_none_iff, List.filter_eq_nil_iff] at hall ⊢
    exact fun stroke hs => hall stroke ((mem_strokes_iff h).mp hs).mem
  | some last =>
    obtain ⟨hm, hlast⟩ := List.mem_filter.mp (List.mem_of_getLast? hall)
    -- the last of all is not repeated later, so the pattern has kept it
    have hlatest : IsLatest (actions.flatMap Action.dabs) last := by
      refine ⟨hm, fun other ho hc hs => number_le_of_getLast? hsorted hall ho ?_⟩
      rw [hp other last (by simp [Stroke.dab, hc, hs]), hlast]
    have hkept := (mem_strokes_iff h).mpr hlatest
    cases hstrokes : (pattern.strokes.filter p).getLast? with
    | none =>
      rw [List.getLast?_eq_none_iff, List.filter_eq_nil_iff] at hstrokes
      exact absurd hlast (hstrokes last hkept)
    | some kept =>
      obtain ⟨hk, hpk⟩ := List.mem_filter.mp (List.mem_of_getLast? hstrokes)
      have hmem := ((mem_strokes_iff h).mp hk).mem
      have hle := number_le_of_getLast? hsorted hall hmem hpk
      have hge := number_le_of_getLast? (strokes_sorted pattern) hstrokes hkept hlast
      rw [eq_of_number_eq hmem hm (Nat.le_antisymm hle hge)]

theorem lastColour_eq_getLast? (strokes : List Stroke) (x y : Nat) (mode : StitchMode) :
    lastColour (strokes.map Stroke.dab) x y mode =
      (strokes.filter fun stroke => stroke.dab.IsOn x y mode).getLast?.map
        fun stroke => stroke.strand.colour := by
  rw [lastColour, List.filter_map, List.getLast?_map, Option.map_map]
  rfl

theorem lastColour_strokes {actions : List Action} {pattern : Pattern}
    (h : patternOfActions actions = .ok pattern) (x y : Nat) (mode : StitchMode) :
    lastColour (pattern.strokes.map Stroke.dab) x y mode =
      lastColour (actions.flatMap Action.dabs) x y mode := by
  rw [lastColour_eq_getLast?, getLast?_filter_strokes h, ← lastColour_eq_getLast?,
    map_dab_numbered]
  intro a b hab
  rw [hab]

/-- The grid of a pattern shows the last dab at each position in each mode and nothing
beyond the square, just as if the dabs were stitched on it one after the other. -/
theorem grid_shows_last_dabs {actions : List Action} {pattern : Pattern}
    (h : patternOfActions actions = .ok pattern) {extent : Nat}
    (hextent : extent * extent ≤ maxGridCells) :
    ∃ grid, Grid.ofPattern pattern extent = .ok grid ∧
      (∀ x y : Nat, x < extent → y < extent → ∀ mode,
        (grid.look x y).slot mode = lastColour (actions.flatMap Action.dabs) x y mode) ∧
      (∀ x y : Nat, ¬ (x < extent ∧ y < extent) → grid.look x y = Stitches.blank) ∧
      grid = (numbered (actions.flatMap Action.dabs)).foldl Grid.stitch (Grid.blank extent) := by
  have hslot : ∀ x y : Nat, x < extent → y < extent → ∀ mode,
      ((pattern.strokes.foldl Grid.stitch (Grid.blank extent)).look x y).slot mode =
        lastColour (actions.flatMap Action.dabs) x y mode := by
    intro x y hx hy mode
    rw [Grid.slot_foldl_stitch hx hy, lastColour_strokes h]
  have hsize : ∀ strokes : List Stroke,
      (strokes.foldl Grid.stitch (Grid.blank extent)).extent = extent :=
    Grid.extent_foldl_stitch (Grid.blank extent)
  have hsquare : ∀ strokes : List Stroke,
      (strokes.foldl Grid.stitch (Grid.blank extent)).IsSquare :=
    Grid.isSquare_foldl_stitch (Grid.isSquare_blank extent)
  refine ⟨_, if_pos hextent, hslot, ?_, ?_⟩
  · intro x y hout
    rw [Grid.look, hsize, if_neg hout]
  · apply Grid.eq_of_slot (hsquare _) (hsquare _)
    · rw [hsize, hsize]
    · intro x y hx hy mode
      rw [hsize] at hx hy
      rw [hslot x y hx hy, Grid.slot_foldl_stitch hx hy, map_dab_numbered]

/-- Two rows of red are stitched, then blue over a part of the lower one, then red over a part of
the blue. A symbol of the last drawing is not stitched, and another one lies in the margin. -/
def repainting : List Action :=
  let palette : Palette := ((Std.ExtTreeMap.empty.insert 'r' ⟨'r', "red", "red"⟩).insert
    'b' ⟨'b', "blue", "blue"⟩).insert '-' ⟨'-', noColour, noColour⟩
  [⟨palette, some .crossStitch, ["rrr", "rrr"], ⟨0, 0⟩⟩,
    ⟨palette, some .crossStitch, ["bb"], ⟨0, 1⟩⟩, ⟨palette, some .leftEdge, ["b"], ⟨0, 0⟩⟩,
    ⟨palette, some .crossStitch, ["rr-", "-r"], ⟨-1, 1⟩⟩]

theorem repainting_shows_last_dabs :
    ∃ pattern, patternOfActions repainting = .ok pattern ∧ 4 * 4 ≤ maxGridCells ∧
      ∃ grid, Grid.ofPattern pattern 4 = .ok grid ∧
        (grid.look 1 1).cross = some "red" ∧ (grid.look 1 1).left = some "blue" ∧
        (grid.look 0 2).cross = some "red" ∧ (grid.look 1 2).cross = some "red" ∧
        (grid.look 2 2).cross = some "blue" ∧ (grid.look 3 2).cross = some "red" ∧
        (grid.look 0 3).cross = none ∧ (grid.look 1 3).cross = some "red" ∧
        grid.look 4 2 = Stitches.blank := by
  have hok : (patternOfActions repainting).isOk = true := by decide +kernel
  obtain ⟨pattern, hp⟩ : ∃ pattern, patternOfActions repainting = .ok pattern := by
    cases h : patternOfActions repainting with
    | error fault => rw [h] at hok; cases hok
    | ok pattern => exact ⟨pattern, rfl⟩
  have hsmall : 4 * 4 ≤ maxGridCells := by decide
  obtain ⟨grid, hg, hslot, hout, _⟩ := grid_shows_last_dabs hp hsmall
  have hcross : ∀ x y, x < 4 → y < 4 →
      (grid.look x y).cross = lastColour (repainting.flatMap Action.dabs) x y .crossStitch :=
    fun x y hx hy => hslot x y hx hy .crossStitch
  have hleft := hslot 1 1 (by decide) (by decide) .leftEdge
  refine ⟨pattern, hp, hsmall, grid, hg, ?_, hleft.trans (by decide +kernel), ?_, ?_, ?_, ?_, ?_,
    ?_, hout 4 2 (by decide)⟩
  all_goals
    rw [hcross _ _ (by decide) (by decide)]
    decide +kernel

end CrossStitch
