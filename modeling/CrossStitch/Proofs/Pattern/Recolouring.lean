import CrossStitch.Proofs.Pattern.Size
import CrossStitch.Proofs.Pattern.Usage

/-! Actions in other colours. If colours are exchanged for others, and different colours for
different ones, the actions stitch just as before, each stitch in the new colour. So the pattern
has the same size and as many colours, and its grid has the same slots filled. How the palettes
spell the colours has no part in this. -/

namespace CrossStitch

/-- An entry with another colour and spelling. -/
def PaletteEntry.recolour (colour label : String → String) (entry : PaletteEntry) : PaletteEntry :=
  ⟨entry.symbol, label entry.raw, colour entry.resolved⟩

/-- An action whose palette has other colours and spellings. -/
def Action.recolour (colour label : String → String) (action : Action) : Action :=
  { action with palette := action.palette.map fun _ entry => entry.recolour colour label }

def Dab.recolour (colour : String → String) (dab : Dab) : Dab :=
  ⟨dab.cell, ⟨colour dab.strand.colour, dab.strand.mode⟩⟩

def Stitches.recolour (colour : String → String) (stitches : Stitches) : Stitches where
  cross := stitches.cross.map colour
  top := stitches.top.map colour
  bottom := stitches.bottom.map colour
  left := stitches.left.map colour
  right := stitches.right.map colour
  horizontal := stitches.horizontal.map colour
  vertical := stitches.vertical.map colour
  backslash := stitches.backslash.map colour
  slash := stitches.slash.map colour

theorem Stitches.slot_recolour (colour : String → String) (stitches : Stitches)
    (mode : StitchMode) :
    (stitches.recolour colour).slot mode = (stitches.slot mode).map colour := by
  cases mode <;> rfl

/-! ### Dabs -/

section Dabs

variable {colour label : String → String}

theorem Symbol.dab?_recolour (hinj : Function.Injective colour) (hnone : colour noColour = noColour)
    (palette : Palette) (mode : StitchMode) (offset : Offset) (symbol : Symbol) :
    symbol.dab? (palette.map fun _ entry => entry.recolour colour label) mode offset =
      (symbol.dab? palette mode offset).map (Dab.recolour colour) := by
  rw [Symbol.dab?, Symbol.dab?, Std.ExtTreeMap.getElem?_map]
  cases palette[symbol.char]? with
  | none => rfl
  | some dye =>
    have hcolour : colour dye.resolved = noColour ↔ dye.resolved = noColour := by
      rw [← hinj.eq_iff (a := dye.resolved), hnone]
    simp only [Option.map_some, PaletteEntry.recolour, hcolour]
    split <;> rfl

/-- The same symbols are stitched. -/
theorem Action.dabs_recolour (hinj : Function.Injective colour)
    (hnone : colour noColour = noColour) (action : Action) :
    (action.recolour colour label).dabs = action.dabs.map (Dab.recolour colour) := by
  have hmode : (action.recolour colour label).mode = action.mode := rfl
  rw [Action.dabs, Action.dabs, hmode]
  cases action.mode with
  | none => rfl
  | some mode =>
    rw [List.map_filterMap]
    exact List.filterMap_congr fun symbol _ =>
      Symbol.dab?_recolour hinj hnone action.palette mode action.offset symbol

theorem dabs_recolour_actions (hinj : Function.Injective colour)
    (hnone : colour noColour = noColour) (actions : List Action) :
    (actions.map (Action.recolour colour label)).flatMap Action.dabs =
      (actions.flatMap Action.dabs).map (Dab.recolour colour) := by
  rw [List.flatMap_map, List.map_flatMap]
  exact List.flatMap_congr fun action _ => action.dabs_recolour hinj hnone

theorem lastColour_recolour (colour : String → String) (dabs : List Dab) (x y : Nat)
    (mode : StitchMode) :
    lastColour (dabs.map (Dab.recolour colour)) x y mode = (lastColour dabs x y mode).map colour := by
  induction dabs using List.reverseRecOn with
  | nil => rfl
  | append_singleton dabs dab ih =>
    have hon : (dab.recolour colour).IsOn x y mode ↔ dab.IsOn x y mode := Iff.rfl
    rw [List.map_append, List.map_singleton, lastColour_concat, lastColour_concat, ih]
    simp only [hon]
    split <;> rfl

end Dabs

/-! ### Patterns -/

section Patterns

variable {colour label : String → String} {actions : List Action} {pattern other : Pattern}

theorem size_recolour (h : patternOfActions actions = .ok pattern)
    (h' : patternOfActions (actions.map (Action.recolour colour label)) = .ok other) :
    other.size = pattern.size := by
  have hplaces : (actions.map (Action.recolour colour label)).flatMap Action.places =
      actions.flatMap Action.places := by
    rw [List.flatMap_map]
    rfl
  have hsize := size_eq_reachOver h
  have hsize' := size_eq_reachOver h'
  rw [hplaces] at hsize'
  omega

theorem mem_usage_recolour_iff (hinj : Function.Injective colour)
    (hnone : colour noColour = noColour) (h : patternOfActions actions = .ok pattern)
    (h' : patternOfActions (actions.map (Action.recolour colour label)) = .ok other) (c : String) :
    c ∈ other.usage ↔ ∃ c' ∈ pattern.usage, colour c' = c := by
  simp only [mem_usage_iff_mem_dabs h', mem_usage_iff_mem_dabs h,
    dabs_recolour_actions hinj hnone, List.mem_map]
  constructor
  · rintro ⟨_, ⟨dab, hd, rfl⟩, rfl⟩
    exact ⟨_, ⟨dab, hd, rfl⟩, rfl⟩
  · rintro ⟨_, ⟨dab, hd, rfl⟩, rfl⟩
    exact ⟨_, ⟨dab, hd, rfl⟩, rfl⟩

/-- As many colours are used. -/
theorem usage_size_recolour (hinj : Function.Injective colour)
    (hnone : colour noColour = noColour) (h : patternOfActions actions = .ok pattern)
    (h' : patternOfActions (actions.map (Action.recolour colour label)) = .ok other) :
    other.usage.size = pattern.usage.size := by
  have hperm : other.usage.keys.Perm (pattern.usage.keys.map colour) := by
    rw [List.perm_ext_iff_of_nodup Std.ExtTreeMap.nodup_keys
      (Std.ExtTreeMap.nodup_keys.map hinj)]
    intro c
    simp only [List.mem_map, Std.ExtTreeMap.mem_keys]
    exact mem_usage_recolour_iff hinj hnone h h' c
  rw [← Std.ExtTreeMap.length_keys, hperm.length_eq, List.length_map, Std.ExtTreeMap.length_keys]

/-- Each stitch is seen in its new colour. -/
theorem look_recolour (hinj : Function.Injective colour) (hnone : colour noColour = noColour)
    (h : patternOfActions actions = .ok pattern)
    (h' : patternOfActions (actions.map (Action.recolour colour label)) = .ok other)
    {extent : Nat} {grid grid' : Grid} (hg : Grid.ofPattern pattern extent = .ok grid)
    (hg' : Grid.ofPattern other extent = .ok grid') (x y : Nat) :
    grid'.look x y = (grid.look x y).recolour colour := by
  by_cases hin : x < extent ∧ y < extent
  · apply Stitches.eq_of_slot
    intro mode
    rw [Stitches.slot_recolour, Grid.slot_look hg' hin.1 hin.2, Grid.slot_look hg hin.1 hin.2,
      lastColour_strokes h', lastColour_strokes h, dabs_recolour_actions hinj hnone,
      lastColour_recolour]
  · rw [Grid.look_eq_blank (by rwa [Grid.extent_ofPattern hg']),
      Grid.look_eq_blank (by rwa [Grid.extent_ofPattern hg])]
    rfl

end Patterns

end CrossStitch
