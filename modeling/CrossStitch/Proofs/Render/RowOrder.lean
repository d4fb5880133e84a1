import CrossStitch.Proofs.Pattern.StrokeOrder
import CrossStitch.Proofs.Render.Position
import CrossStitch.Proofs.Render.Rejection
import Mathlib.Data.List.Induction

/-! Positions row by row from the top. What is collected from a grid comes in the order of its
positions. So the colours of the cross stitches, each taken once, come in the order in which
they are met: a colour is met somewhere before any place of a later one. -/

namespace CrossStitch

theorem precedes_trichotomy (x y x' y' : Nat) :
    Precedes x y x' y' ∨ (x = x' ∧ y = y') ∨ Precedes x' y' x y := by
  simp only [Precedes]
  omega

theorem Precedes.irrefl (x y : Nat) : ¬ Precedes x y x y := by
  simp only [Precedes]
  omega

theorem Precedes.asymm {x y x' y' : Nat} (h : Precedes x y x' y') : ¬ Precedes x' y' x y := by
  simp only [Precedes] at h ⊢
  omega

/-- The positions of a square, row by row from the top. -/
def positions (extent : Nat) : List (Nat × Nat) :=
  (List.range extent).flatMap fun y => (List.range extent).map fun x => (x, y)

theorem mem_positions {extent x y : Nat} :
    (x, y) ∈ positions extent ↔ x < extent ∧ y < extent := by
  simp [positions, and_comm]

theorem length_positions (extent : Nat) : (positions extent).length = extent * extent := by
  have hrow : ∀ y : Nat, ((List.range extent).map fun x => (x, y)).length = extent := by simp
  rw [positions, length_flatMap_range hrow]

theorem positions_inOrder (extent : Nat) :
    (positions extent).Pairwise fun p q => Precedes p.1 p.2 q.1 q.2 := by
  rw [positions, List.pairwise_flatMap]
  constructor
  · intro y _
    rw [List.pairwise_map]
    exact List.pairwise_lt_range.imp fun hx => .inr ⟨rfl, hx⟩
  · refine List.pairwise_lt_range.imp fun hy p hp q hq => ?_
    obtain ⟨_, _, rfl⟩ := List.mem_map.mp hp
    obtain ⟨_, _, rfl⟩ := List.mem_map.mp hq
    exact .inl hy

theorem nodup_positions (extent : Nat) : (positions extent).Nodup := by
  refine (positions_inOrder extent).imp ?_
  rintro p _ hbefore rfl
  exact Precedes.irrefl _ _ hbefore

/-- The cells of a page are those of the positions in this order. -/
theorem Html.wholeChart_cells {pattern : Pattern} {grid : Grid} :
    (wholeChart pattern grid).cells = (positions (pattern.size + 1)).map fun p =>
      pageCell grid (idWidth pattern.size) p.1 p.2 := by
  rw [wholeChart, positions, List.map_flatMap]
  simp only [List.map_map]
  rfl

/-! ### Collecting -/

namespace Grid

theorem collect_eq_filterMap {α : Type} (grid : Grid) (f : Stitches → Option α) :
    grid.collect f = (positions grid.extent).filterMap fun p => f (grid.look p.1 p.2) := by
  simp only [collect, positions, List.filterMap_flatMap, List.filterMap_map]
  rfl

/-- What is collected before something comes from the positions before its position. -/
theorem exists_position_of_collect {α : Type} {grid : Grid} {f : Stitches → Option α}
    {before after : List α} {a : α} (h : grid.collect f = before ++ a :: after) :
    ∃ x y, f (grid.look x y) = some a ∧ ∀ x' y' b, x' < grid.extent → y' < grid.extent →
      Precedes x' y' x y → f (grid.look x' y') = some b → b ∈ before := by
  rw [collect_eq_filterMap, List.filterMap_eq_append_iff] at h
  obtain ⟨start, rest, hsplit, rfl, hrest⟩ := h
  obtain ⟨skipped, ⟨x, y⟩, later, rfl, hskipped, hfound, -⟩ := List.filterMap_eq_cons_iff.mp hrest
  refine ⟨x, y, hfound, fun x' y' b hx hy hbefore hb => ?_⟩
  have hmem : (x', y') ∈ start ++ (skipped ++ (x, y) :: later) :=
    hsplit ▸ mem_positions.mpr ⟨hx, hy⟩
  have hordered := positions_inOrder grid.extent
  rw [hsplit, ← List.append_assoc, List.pairwise_append, List.pairwise_cons] at hordered
  -- of the parts of the list, only the start may hold an earlier position with something
  simp only [List.mem_append, List.mem_cons, Prod.mk.injEq] at hmem
  rcases hmem with hmem | hmem | ⟨rfl, rfl⟩ | hmem
  · exact List.mem_filterMap.mpr ⟨_, hmem, hb⟩
  · rw [hskipped _ hmem] at hb
    cases hb
  · exact absurd hbefore (Precedes.irrefl _ _)
  · exact absurd hbefore (hordered.2.1.1 _ hmem).asymm

end Grid

/-- Of two elements, each taken once, the one comes first that occurs before the other does. -/
theorem eraseDups_inOrder (l : List String) :
    l.eraseDups.Pairwise fun a b => a ≠ b ∧ ∃ before after, l = before ++ a :: after ∧
      b ∉ before := by
  induction l using List.reverseRecOn with
  | nil => simp
  | append_singleton l c ih =>
    have hold : l.eraseDups.Pairwise fun a b => a ≠ b ∧ ∃ before after,
        l ++ [c] = before ++ a :: after ∧ b ∉ before := by
      refine ih.imp ?_
      rintro a b ⟨hne, before, after, rfl, hb⟩
      exact ⟨hne, before, after ++ [c], by simp, hb⟩
    rw [eraseDups_concat]
    split
    · exact hold
    next hnew =>
      rw [List.pairwise_append]
      refine ⟨hold, List.pairwise_singleton _ _, fun a ha b hb => ?_⟩
      cases List.mem_singleton.mp hb
      obtain ⟨before, after, rfl⟩ := List.append_of_mem (List.mem_eraseDups.mp ha)
      refine ⟨?_, before, after ++ [c], by simp, fun hb => hnew (List.mem_append_left _ hb)⟩
      rintro rfl
      exact hnew (by simp)

/-! ### Colours -/

/-- A colour has a cross stitch before all cross stitches of the other. -/
def Grid.MetBefore (grid : Grid) (colour other : String) : Prop :=
  ∃ x y, (grid.look x y).cross = some colour ∧
    ∀ x' y', (grid.look x' y').cross = some other → Precedes x y x' y'

/-- The colours of all cross stitches, in the order in which they are met. -/
structure Grid.Meets (grid : Grid) (colours : List String) : Prop where
  mem_iff : ∀ colour, colour ∈ colours ↔ ∃ x y, (grid.look x y).cross = some colour
  nodup : colours.Nodup
  inOrder : colours.Pairwise grid.MetBefore

theorem Grid.MetBefore.asymm {grid : Grid} {colour other : String}
    (h : grid.MetBefore colour other) : ¬ grid.MetBefore other colour := by
  rintro ⟨x', y', hcross', hfirst'⟩
  obtain ⟨x, y, hcross, hfirst⟩ := h
  exact (hfirst x' y' hcross').asymm (hfirst' x y hcross)

/-- There is just one such list. -/
theorem Grid.Meets.unique {grid : Grid} {colours others : List String} (h : grid.Meets colours)
    (h' : grid.Meets others) : colours = others := by
  have hperm : colours.Perm others := by
    rw [List.perm_ext_iff_of_nodup h.nodup h'.nodup]
    exact fun colour => (h.mem_iff colour).trans (h'.mem_iff colour).symm
  exact hperm.eq_of_pairwise (fun _ _ _ _ hab hba => absurd hba hab.asymm) h.inOrder h'.inOrder

theorem Grid.meets_crossColours (grid : Grid) : grid.Meets (Ascii.crossColours grid) where
  mem_iff _ := Ascii.mem_crossColours_iff
  nodup := Ascii.nodup_eraseDups _
  inOrder := by
    refine (eraseDups_inOrder _).imp ?_
    rintro colour other ⟨hne, before, after, hsplit, hother⟩
    obtain ⟨x, y, hcross, hearlier⟩ := exists_position_of_collect hsplit
    refine ⟨x, y, hcross, fun x' y' hcross' => ?_⟩
    rcases precedes_trichotomy x y x' y' with h | ⟨rfl, rfl⟩ | h
    · exact h
    · rw [hcross] at hcross'
      exact absurd (Option.some.inj hcross') hne
    · have hin : x' < grid.extent ∧ y' < grid.extent := by
        by_contra hout
        rw [look_eq_blank hout] at hcross'
        cases hcross'
      exact absurd (hearlier x' y' other hin.1 hin.2 h hcross') hother

end CrossStitch
