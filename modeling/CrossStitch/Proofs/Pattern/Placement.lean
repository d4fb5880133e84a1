import CrossStitch.Proofs.Pattern.Bookkeeping

/-! Where stitches lie. A symbol's position is reckoned in whole numbers and then put into 32
bits. An offset reaches no further left or up than 32 bits do, but a drawing that is moved
far enough runs over on the right or below. As long as none does, the cells of a strand are
exactly the positions at which the actions stitch it. The size of a pattern tells: none has
run over if 32 bits can hold the size. -/

namespace CrossStitch

/-- The actions stitch the strand at a position of the chart, counted from 1. -/
def StitchedAt (actions : List Action) (strand : Strand) (x y : Int) : Prop :=
  ∃ action ∈ actions, action.mode = some strand.mode ∧ ∃ symbol ∈ action.symbols,
    (∃ dye, action.palette[symbol.char]? = some dye ∧ dye.resolved = strand.colour) ∧
      x = symbol.column + action.offset.x.toInt + 1 ∧
      y = symbol.row + action.offset.y.toInt + 1

/-- The cells stitched with a strand, in order. -/
def Pattern.cellsOf (pattern : Pattern) (strand : Strand) : List Cell :=
  (pattern.entry? strand).elim [] Entry.cells

/-! ### Dabs and positions -/

theorem Symbol.dab?_eq_some_iff {palette : Palette} {mode : StitchMode} {offset : Offset}
    {symbol : Symbol} {cell : Cell} {strand : Strand} (hc : strand.colour ≠ noColour) :
    symbol.dab? palette mode offset = some ⟨cell, strand⟩ ↔
      mode = strand.mode ∧ (∃ dye, palette[symbol.char]? = some dye ∧
        dye.resolved = strand.colour) ∧ cell = (symbol.place offset).cell := by
  obtain ⟨colour, mode'⟩ := strand
  rw [Symbol.dab?]
  cases palette[symbol.char]? with
  | none => simp
  | some dye =>
    by_cases hnone : dye.resolved = noColour
    · simp [hnone, Ne.symm hc]
    · simp [hnone]
      tauto

theorem mem_dabs_iff {action : Action} {cell : Cell} {strand : Strand}
    (hc : strand.colour ≠ noColour) :
    ⟨cell, strand⟩ ∈ action.dabs ↔ action.mode = some strand.mode ∧
      ∃ symbol ∈ action.symbols, (∃ dye, action.palette[symbol.char]? = some dye ∧
        dye.resolved = strand.colour) ∧ cell = (symbol.place action.offset).cell := by
  rw [Action.dabs]
  cases action.mode with
  | none => simp
  | some mode =>
    simp only [List.mem_filterMap, Symbol.dab?_eq_some_iff hc, Option.some.injEq]
    constructor
    · rintro ⟨symbol, hs, hm, h⟩
      exact ⟨hm, symbol, hs, h⟩
    · rintro ⟨hm, symbol, hs, h⟩
      exact ⟨symbol, hs, hm, h⟩

theorem mem_flatMap_dabs_iff {actions : List Action} {cell : Cell} {strand : Strand}
    (hc : strand.colour ≠ noColour) :
    ⟨cell, strand⟩ ∈ actions.flatMap Action.dabs ↔
      ∃ x y, StitchedAt actions strand x y ∧ cell = ⟨Int32.ofInt x, Int32.ofInt y⟩ := by
  simp only [List.mem_flatMap, mem_dabs_iff hc]
  constructor
  · rintro ⟨action, ha, hm, symbol, hs, hd, rfl⟩
    exact ⟨_, _, ⟨action, ha, hm, symbol, hs, hd, rfl, rfl⟩, rfl⟩
  · rintro ⟨_, _, ⟨action, ha, hm, symbol, hs, hd, rfl, rfl⟩, rfl⟩
    exact ⟨action, ha, hm, symbol, hs, hd, rfl⟩

/-- A dab is made for the last time, too. -/
theorem exists_isLatest_iff {dabs : List Dab} {cell : Cell} {strand : Strand} :
    (∃ number, IsLatest dabs ⟨number, cell, strand⟩) ↔ ⟨cell, strand⟩ ∈ dabs := by
  constructor
  · rintro ⟨_, h⟩
    exact mem_of_mem_numbered h.mem
  · intro h
    induction dabs using List.reverseRecOn with
    | nil => cases h
    | append_singleton dabs dab ih =>
      by_cases hnew : dab.cell = cell ∧ dab.strand = strand
      · exact ⟨_, isLatest_concat.mpr (by rw [if_pos hnew])⟩
      · have hold : ⟨cell, strand⟩ ∈ dabs := by
          rcases List.mem_append.mp h with h | h
          · exact h
          · cases List.mem_singleton.mp h
            exact absurd ⟨rfl, rfl⟩ hnew
        obtain ⟨number, hn⟩ := ih hold
        exact ⟨number, isLatest_concat.mpr (by rwa [if_neg hnew])⟩

/-! ### The cells of a strand -/

/-- Actions that are painted to the end are painted as any actions are. -/
theorem Builder.addEach_of_addAll {actions : List Action} {builder next : Builder}
    (h : builder.addAll actions = .ok next) : builder.addEach actions = next := by
  induction actions generalizing builder with
  | nil =>
    cases h
    rfl
  | cons action actions ih =>
    rw [Builder.addAll] at h
    split at h
    · cases h
    next added hadded =>
      rw [Builder.addEach, List.foldl_cons, hadded]
      exact ih h

theorem Pattern.entry?_eq_some_iff {pattern : Pattern}
    (hn : (pattern.entries.map Entry.strand).Nodup) {strand : Strand} {entry : Entry} :
    pattern.entry? strand = some entry ↔ entry ∈ pattern.entries ∧ entry.strand = strand := by
  constructor
  · intro h
    exact ⟨List.mem_of_find?_eq_some h, by simpa using List.find?_some h⟩
  · rintro ⟨he, rfl⟩
    obtain ⟨found, hf⟩ : ∃ found, pattern.entry? entry.strand = some found := by
      apply Option.isSome_iff_exists.mp
      exact List.find?_isSome.mpr ⟨entry, he, by simp⟩
    have hs : found.strand = entry.strand := by simpa using List.find?_some hf
    rw [hf, List.inj_on_of_nodup_map hn (List.mem_of_find?_eq_some hf) he hs]

theorem Pattern.mem_cellsOf {pattern : Pattern} (hn : (pattern.entries.map Entry.strand).Nodup)
    {strand : Strand} {cell : Cell} :
    cell ∈ pattern.cellsOf strand ↔
      ∃ entry ∈ pattern.entries, entry.strand = strand ∧ cell ∈ entry.cells := by
  have hentry : cell ∈ pattern.cellsOf strand ↔
      ∃ entry, pattern.entry? strand = some entry ∧ cell ∈ entry.cells := by
    rw [Pattern.cellsOf]
    cases pattern.entry? strand <;> simp
  simp only [hentry, Pattern.entry?_eq_some_iff hn, and_assoc]

/-- A strand has the cells that it was dabbed on. -/
theorem mem_cellsOf_iff_mem_dabs {actions : List Action} {pattern : Pattern}
    (h : patternOfActions actions = .ok pattern) {cell : Cell} {strand : Strand} :
    cell ∈ pattern.cellsOf strand ↔ ⟨cell, strand⟩ ∈ actions.flatMap Action.dabs := by
  obtain ⟨builder, hadd, hbuild⟩ := bind_eq_ok_iff.mp h
  obtain ⟨size, _, rfl⟩ := map_eq_ok_iff.mp hbuild
  have hholds := Builder.holds_start.addAll hadd
  rw [List.nil_append] at hholds
  have hfilled : ∀ entry ∈ builder.entries.toList, entry.Filled := by
    rw [← Builder.addEach_of_addAll hadd]
    exact (Builder.kept_books.addEach Builder.books_start actions).filled
  have hcell : ∀ entry ∈ builder.entries.toList,
      (cell ∈ entry.cells ↔ ⟨cell, entry.strand⟩ ∈ actions.flatMap Action.dabs) := by
    intro entry he
    rw [(hfilled entry he).mem_cells, ← Std.ExtTreeMap.isSome_getElem?_iff_mem,
      Option.isSome_iff_exists, ← exists_isLatest_iff]
    exact exists_congr fun _ => hholds.isLatest_of_mem he
  rw [Pattern.mem_cellsOf hholds.strands_nodup]
  constructor
  · rintro ⟨entry, he, rfl, hc⟩
    exact (hcell entry he).mp hc
  · intro hd
    obtain ⟨i, hi⟩ := hholds.located _ hd
    obtain ⟨entry, he, rfl⟩ := (hholds.index _ i).mp hi
    have he := Array.mem_toList_iff.mpr (Array.mem_of_getElem? he)
    exact ⟨entry, he, rfl, (hcell entry he).mpr hd⟩

/-! ### Positions in 32 bits -/

theorem StitchedAt.lower {actions : List Action} {strand : Strand} {x y : Int}
    (h : StitchedAt actions strand x y) : -2 ^ 31 ≤ x ∧ -2 ^ 31 ≤ y := by
  obtain ⟨action, _, _, symbol, _, _, rfl, rfl⟩ := h
  have hx := action.offset.x.le_toInt
  have hy := action.offset.y.le_toInt
  omega

/-- The cells of a strand are the positions at which the actions stitch it, put into 32 bits. -/
theorem mem_cellsOf_iff {actions : List Action} {pattern : Pattern}
    (h : patternOfActions actions = .ok pattern) {strand : Strand}
    (hc : strand.colour ≠ noColour) (cell : Cell) :
    cell ∈ pattern.cellsOf strand ↔
      ∃ x y, StitchedAt actions strand x y ∧ cell = ⟨Int32.ofInt x, Int32.ofInt y⟩ := by
  rw [mem_cellsOf_iff_mem_dabs h, mem_flatMap_dabs_iff hc]

/-- If 32 bits are enough for the positions, they are kept. -/
theorem cellsOf_exact {actions : List Action} {pattern : Pattern}
    (h : patternOfActions actions = .ok pattern) {strand : Strand}
    (hc : strand.colour ≠ noColour)
    (hfits : ∀ x y, StitchedAt actions strand x y → x < 2 ^ 31 ∧ y < 2 ^ 31) (x y : Int) :
    StitchedAt actions strand x y ↔
      ∃ cell ∈ pattern.cellsOf strand, cell.x.toInt = x ∧ cell.y.toInt = y := by
  have hkept : ∀ x y, StitchedAt actions strand x y →
      (Int32.ofInt x).toInt = x ∧ (Int32.ofInt y).toInt = y := by
    intro x y hs
    exact ⟨Int32.toInt_ofInt_of_le hs.lower.1 (hfits x y hs).1,
      Int32.toInt_ofInt_of_le hs.lower.2 (hfits x y hs).2⟩
  constructor
  · intro hs
    exact ⟨_, (mem_cellsOf_iff h hc _).mpr ⟨x, y, hs, rfl⟩, hkept x y hs⟩
  · rintro ⟨cell, hm, rfl, rfl⟩
    obtain ⟨x, y, hs, rfl⟩ := (mem_cellsOf_iff h hc cell).mp hm
    rw [(hkept x y hs).1, (hkept x y hs).2]
    exact hs

/-- The cells of a strand are the positions at which the actions stitch it, put into 32 bits.
They are the very positions as long as 32 bits are enough for each of these. -/
theorem cellsOf_exact_iff {actions : List Action} {pattern : Pattern}
    (h : patternOfActions actions = .ok pattern) {strand : Strand}
    (hc : strand.colour ≠ noColour) :
    (∀ cell, cell ∈ pattern.cellsOf strand ↔
      ∃ x y, StitchedAt actions strand x y ∧ cell = ⟨Int32.ofInt x, Int32.ofInt y⟩) ∧
    ((∀ x y, StitchedAt actions strand x y ↔
        ∃ cell ∈ pattern.cellsOf strand, cell.x.toInt = x ∧ cell.y.toInt = y) ↔
      ∀ x y, StitchedAt actions strand x y → x < 2 ^ 31 ∧ y < 2 ^ 31) := by
  refine ⟨mem_cellsOf_iff h hc, ?_, cellsOf_exact h hc⟩
  intro hexact x y hs
  obtain ⟨cell, _, rfl, rfl⟩ := (hexact x y).mp hs
  exact ⟨cell.x.toInt_lt, cell.y.toInt_lt⟩

/-- A red cross, moved by an offset. -/
def oneCross (offset : Offset) : List Action :=
  [⟨Std.ExtTreeMap.empty.insert 'a' ⟨'a', "red", "red"⟩, some .crossStitch, ["a"], offset⟩]

def redCross : Strand := ⟨"red", .crossStitch⟩

theorem stitchedAt_oneCross_iff {offset : Offset} {x y : Int} :
    StitchedAt (oneCross offset) redCross x y ↔ x = offset.x.toInt + 1 ∧ y = offset.y.toInt + 1 := by
  simp [StitchedAt, oneCross, redCross, Action.symbols]

/-- The last column that 32 bits know. -/
theorem cellsOf_lastColumn :
    ∃ pattern, patternOfActions (oneCross ⟨2147483646, 0⟩) = .ok pattern ∧
      redCross.colour ≠ noColour ∧ pattern.cellsOf redCross = [⟨2147483647, 1⟩] ∧
      ∀ x y, StitchedAt (oneCross ⟨2147483646, 0⟩) redCross x y ↔
        ∃ cell ∈ pattern.cellsOf redCross, cell.x.toInt = x ∧ cell.y.toInt = y := by
  have hmap : (patternOfActions (oneCross ⟨2147483646, 0⟩)).map (Pattern.cellsOf · redCross) =
      .ok [⟨2147483647, 1⟩] := by decide +kernel
  obtain ⟨pattern, hp, hcells⟩ := map_eq_ok_iff.mp hmap
  have hred : redCross.colour ≠ noColour := by decide
  refine ⟨pattern, hp, hred, hcells, (cellsOf_exact_iff hp hred).2.mpr ?_⟩
  intro x y hs
  obtain ⟨rfl, rfl⟩ := stitchedAt_oneCross_iff.mp hs
  decide +kernel

/-- One column further, and the stitch jumps to the other end of the row. -/
theorem cellsOf_beyond_lastColumn :
    ∃ pattern, patternOfActions (oneCross ⟨2147483647, 0⟩) = .ok pattern ∧
      StitchedAt (oneCross ⟨2147483647, 0⟩) redCross 2147483648 1 ∧
      pattern.cellsOf redCross = [⟨-2147483648, 1⟩] ∧
      ¬ ∀ x y, StitchedAt (oneCross ⟨2147483647, 0⟩) redCross x y ↔
        ∃ cell ∈ pattern.cellsOf redCross, cell.x.toInt = x ∧ cell.y.toInt = y := by
  have hmap : (patternOfActions (oneCross ⟨2147483647, 0⟩)).map (Pattern.cellsOf · redCross) =
      .ok [⟨-2147483648, 1⟩] := by decide +kernel
  obtain ⟨pattern, hp, hcells⟩ := map_eq_ok_iff.mp hmap
  have hs : StitchedAt (oneCross ⟨2147483647, 0⟩) redCross 2147483648 1 :=
    stitchedAt_oneCross_iff.mpr (by decide +kernel)
  refine ⟨pattern, hp, hs, hcells, fun hexact => ?_⟩
  obtain ⟨cell, hm, hx, _⟩ := (hexact _ _).mp hs
  rw [hcells, List.mem_singleton] at hm
  subst hm
  exact absurd hx (by decide)

/-! ### Patterns that are not too large -/

namespace Builder

theorem reach_locate (builder : Builder) (strand : Strand) :
    (builder.locate strand).1.reach = builder.reach := by
  unfold Builder.locate
  split <;> rfl

/-- Strokes do not extend the reach; taking in their places does. -/
theorem reach_stroke (builder : Builder) (mode : StitchMode) (dye : PaletteEntry) (cell : Cell) :
    (builder.stroke mode dye cell).reach = builder.reach :=
  builder.reach_locate ⟨dye.resolved, mode⟩

/-- The builder reaches as far as every symbol it has painted. -/
theorem reach_paint {palette : Palette} {mode : StitchMode} {offset : Offset}
    {symbols : List Symbol} {builder next : Builder}
    (h : Builder.paint palette mode offset builder symbols = (next, .ok ())) :
    builder.reach ≤ next.reach ∧ ∀ symbol ∈ symbols,
      (symbol.place offset).x ≤ next.reach ∧ (symbol.place offset).y ≤ next.reach := by
  induction symbols generalizing builder with
  | nil =>
    cases h
    exact ⟨Int.le_refl _, nofun⟩
  | cons symbol symbols ih =>
    obtain ⟨hreach, hrest⟩ : (builder.extend (symbol.place offset)).reach ≤ next.reach ∧
        ∀ symbol ∈ symbols,
          (symbol.place offset).x ≤ next.reach ∧ (symbol.place offset).y ≤ next.reach := by
      rw [Builder.paint] at h
      split at h
      · cases h
      · split at h
        · exact ih h
        · rw [← reach_stroke]
          exact ih h
    simp only [Builder.extend] at hreach
    refine ⟨by omega, List.forall_mem_cons.mpr ⟨?_, hrest⟩⟩
    omega

theorem reach_add {builder next : Builder} {action : Action}
    (h : builder.add action = (next, .ok ())) :
    builder.reach ≤ next.reach ∧ ∀ symbol ∈ action.symbols,
      (symbol.place action.offset).x ≤ next.reach ∧
        (symbol.place action.offset).y ≤ next.reach := by
  rw [Builder.add] at h
  split at h
  · cases h
  · split at h
    next hpaint =>
      cases h
      exact reach_paint hpaint
    · cases h

theorem reach_addAll {actions : List Action} {builder next : Builder}
    (h : builder.addAll actions = .ok next) :
    builder.reach ≤ next.reach ∧ ∀ action ∈ actions, ∀ symbol ∈ action.symbols,
      (symbol.place action.offset).x ≤ next.reach ∧
        (symbol.place action.offset).y ≤ next.reach := by
  induction actions generalizing builder with
  | nil =>
    cases h
    exact ⟨Int.le_refl _, nofun⟩
  | cons action actions ih =>
    rw [Builder.addAll] at h
    split at h
    · cases h
    next added hadded =>
      obtain ⟨hadd, hplaces⟩ := reach_add hadded
      obtain ⟨hle, hrest⟩ := ih h
      refine ⟨Int.le_trans hadd hle, List.forall_mem_cons.mpr ⟨?_, hrest⟩⟩
      intro symbol hs
      exact ⟨Int.le_trans (hplaces symbol hs).1 hle, Int.le_trans (hplaces symbol hs).2 hle⟩

end Builder

theorem Pattern.sizeOf?_eq_ok {size : Int} {n : Nat} (h : sizeOf? size = .ok n) : size = n := by
  unfold sizeOf? at h
  split at h
  · cases h
  · cases h
    omega

/-- Nothing is stitched beyond the size of the pattern. -/
theorem StitchedAt.le_size {actions : List Action} {strand : Strand} {x y : Int}
    (hs : StitchedAt actions strand x y) {pattern : Pattern}
    (h : patternOfActions actions = .ok pattern) : x ≤ pattern.size ∧ y ≤ pattern.size := by
  obtain ⟨builder, hadd, hbuild⟩ := bind_eq_ok_iff.mp h
  obtain ⟨size, hsize, rfl⟩ := map_eq_ok_iff.mp hbuild
  obtain ⟨action, ha, _, symbol, hsymbol, _, rfl, rfl⟩ := hs
  obtain ⟨hx, hy⟩ := (Builder.reach_addAll hadd).2 action ha symbol hsymbol
  have hsize := Pattern.sizeOf?_eq_ok hsize
  simp only [Symbol.place] at hx hy
  dsimp only
  omega

/-- A pattern whose size 32 bits can hold has every stitch in its place. -/
theorem cellsOf_exact_of_size {actions : List Action} {pattern : Pattern}
    (h : patternOfActions actions = .ok pattern) (hsize : pattern.size < 2 ^ 31)
    {strand : Strand} (hc : strand.colour ≠ noColour) (x y : Int) :
    StitchedAt actions strand x y ↔
      ∃ cell ∈ pattern.cellsOf strand, cell.x.toInt = x ∧ cell.y.toInt = y := by
  refine cellsOf_exact h hc (fun x y hs => ?_) x y
  have hle := hs.le_size h
  omega

end CrossStitch
