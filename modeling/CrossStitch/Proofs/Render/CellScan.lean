import CrossStitch.Proofs.Render.Legend

/-! Charts as they are drawn, cell after cell. Row by row from the top, both renderers look at the
lines of a cell, each in its own way, and give up at the first cell where lines get in each other's
way. The text chart also gives out a symbol when it meets a new colour, and raises warnings as it
goes. What it has done by then is told by the cells alone: by the colours that were met, in the
order in which they were. -/

namespace CrossStitch

/-! ### The lines of one cell -/

/-- The lines of a cell as one character. -/
def Ascii.drawLines (stitches : Stitches) : Except ChartFault Char :=
  if stitches.hasDiagonal then
    if stitches.hasStraightLine || (stitches.backslash.isSome && stitches.slash.isSome) then
      .error .incompatibleLineCombination
    else .ok (if stitches.backslash.isSome then '\\' else '/')
  else match stitches.horizontal.isSome, stitches.vertical.isSome with
    | true, true => .ok '+'
    | true, false => .ok '-'
    | false, true => .ok '|'
    | false, false => .ok ' '

/-- The lines of a cell as markup: straight lines first, then diagonals if there are none. -/
def Html.drawLines (stitches : Stitches) : Except ChartFault (Option String) :=
  let straight := match stitches.horizontal, stitches.vertical with
    | some h, some v => some (colouredLine "-" h ++ colouredLine "|" v ++ colouredLine "-" h)
    | some h, none => some (colouredLine "---" h)
    | none, some v => some (colouredLine "|" v)
    | none, none => none
  match stitches.backslash, stitches.slash with
  | none, none => .ok straight
  | some colour, none =>
    if straight.isSome then .error .incompatibleLineCombination
    else .ok (some (colouredLine "\\" colour))
  | none, some colour =>
    if straight.isSome then .error .incompatibleLineCombination
    else .ok (some (colouredLine "/" colour))
  | some _, some _ =>
    if straight.isSome then .error .incompatibleLineCombination
    else .error .crossStitchLineConflict

/-- The text chart gives up a cell for a conflict. -/
theorem Ascii.drawLines_eq (stitches : Stitches) : drawLines stitches =
    if stitches.conflicts then .error .incompatibleLineCombination
    else .ok (lineGlyph stitches) := by
  obtain ⟨_, _, _, _, _, horizontal, vertical, backslash, slash⟩ := stitches
  cases horizontal <;> cases vertical <;> cases backslash <;> cases slash <;> rfl

/-- So does the page, which tells two kinds of conflict apart. -/
theorem Html.drawLines_eq (stitches : Stitches) : drawLines stitches =
    if stitches.conflicts then .error (conflictKind stitches)
    else .ok (lineMarkup? stitches) := by
  obtain ⟨_, _, _, _, _, horizontal, vertical, backslash, slash⟩ := stitches
  cases horizontal <;> cases vertical <;> cases backslash <;> cases slash <;> rfl

/-! ### All cells -/

namespace Grid

/-- The stitches at all positions, row by row from the top. -/
def inOrder (grid : Grid) : List Stitches :=
  (positions grid.extent).map fun p => grid.look p.1 p.2

theorem collect_eq (grid : Grid) {α : Type} (f : Stitches → Option α) :
    grid.collect f = grid.inOrder.filterMap f := by
  rw [collect_eq_filterMap, inOrder, List.filterMap_map]
  rfl

theorem find?_eq (grid : Grid) (p : Stitches → Bool) : grid.find? p = grid.inOrder.find? p := by
  have hrow (f : Nat → Stitches) (l : List Nat) :
      (l.map f).find? p = l.findSome? fun x => if p (f x) then some (f x) else none := by
    induction l with
    | nil => rfl
    | cons x l ih =>
      rw [List.map_cons, List.find?_cons, List.findSome?_cons, ih]
      cases p (f x) <;> rfl
  rw [find?, inOrder, positions, List.map_flatMap, List.find?_flatMap]
  simp only [List.map_map]
  refine congrArg (List.findSome? · _) (funext fun y => ?_)
  exact (hrow (fun x => grid.look x y) _).symm

end Grid

/-- The lines of all cells of a page come to the fault of the first cell in conflict, if there is
one. -/
theorem Html.mapM_drawLines (cells : List Stitches) : cells.mapM drawLines =
    match cells.find? Stitches.conflicts with
    | some stitches => .error (conflictKind stitches)
    | none => .ok (cells.map lineMarkup?) := by
  induction cells with
  | nil => rfl
  | cons stitches cells ih =>
    rw [List.mapM_cons, ih, drawLines_eq, List.find?_cons]
    cases stitches.conflicts with
    | true => rfl
    | false => cases cells.find? Stitches.conflicts <;> rfl

namespace Ascii

/-! ### What the text chart carries along -/

/-- The symbols that have been given out, the warnings that have been raised, and the characters
that have been drawn. -/
structure Scan where
  assigned : List (String × Char)
  raised : Warnings
  drawn : List Char

namespace Scan

def start : Scan := ⟨[], .none, []⟩

def warn (scan : Scan) (message : String) : Scan :=
  { scan with raised := scan.raised.push message }

def assign (scan : Scan) (colour : String) (symbol : Char) : Scan :=
  { scan with assigned := scan.assigned ++ [(colour, symbol)] }

def draw (scan : Scan) (char : Char) : Scan :=
  { scan with drawn := scan.drawn ++ [char] }

@[simp] theorem raised_assign (scan : Scan) (colour : String) (symbol : Char) :
    (scan.assign colour symbol).raised = scan.raised :=
  rfl

@[simp] theorem raised_draw (scan : Scan) (char : Char) : (scan.draw char).raised = scan.raised :=
  rfl

/-- The symbol of a colour. A new colour gets the next of the alphabet. -/
def symbol (scan : Scan) (colour : String) : Scan × Char :=
  match scan.assigned.lookup colour with
  | some symbol => (scan, symbol)
  | none =>
    match alphabet[scan.assigned.length]? with
    | some symbol => (scan.assign colour symbol, symbol)
    | none => ((scan.warn outOfSymbolsWarning).assign colour overflowSymbol, overflowSymbol)

/-- Draws one cell. -/
def step (scan : Scan) (stitches : Stitches) : Except ChartFault Scan := do
  let line ← drawLines stitches
  match stitches.cross with
  | none => return scan.draw line
  | some colour =>
    let warned := if line = ' ' then scan else scan.warn stitchAndLineWarning
    let (next, symbol) := warned.symbol colour
    return next.draw symbol

/-- The scan of the cells. -/
def run (cells : List Stitches) : Except ChartFault Scan :=
  cells.foldlM step start

end Scan

/-! ### What is told by the cells -/

/-- The colours of the crosses in the order in which they are met. -/
def coloursIn (cells : List Stitches) : List String :=
  (cells.filterMap Stitches.cross).eraseDups

/-- Colours with their symbols. -/
def withSymbols (colours : List String) : List (String × Char) :=
  colours.map fun colour => (colour, symbolOf colours colour)

theorem lookup_withSymbols (colours : List String) (colour : String) :
    (withSymbols colours).lookup colour =
      if colour ∈ colours then some (symbolOf colours colour) else none := by
  have hkeyed (f : String → Char) (names : List String) :
      (names.map fun name => (name, f name)).lookup colour =
        if colour ∈ names then some (f colour) else none := by
    induction names with
    | nil => rfl
    | cons name names ih =>
      rw [List.map_cons, List.lookup_cons, ih]
      by_cases h : colour = name
      · simp [h]
      · simp [h, beq_false_of_ne h]
  exact hkeyed _ colours

/-- Symbols that have been given out are kept. -/
theorem symbolOf_concat {colours : List String} {colour : String} (h : colour ∈ colours)
    (new : String) : symbolOf (colours ++ [new]) colour = symbolOf colours colour := by
  rw [symbolOf, symbolOf, List.idxOf_append_of_mem h]

theorem symbolOf_new {colours : List String} {new : String} (h : new ∉ colours) :
    symbolOf (colours ++ [new]) new = alphabet.getD colours.length overflowSymbol := by
  rw [symbolOf, List.idxOf_append_of_notMem h, List.idxOf_cons_self, Nat.add_zero]

theorem withSymbols_concat {colours : List String} {new : String} (h : new ∉ colours) :
    withSymbols (colours ++ [new]) =
      withSymbols colours ++ [(new, alphabet.getD colours.length overflowSymbol)] := by
  rw [withSymbols, List.map_append, List.map_singleton, symbolOf_new h]
  congr 1
  exact List.map_congr_left fun colour hc => by rw [symbolOf_concat hc]

theorem coloursIn_concat (cells : List Stitches) (stitches : Stitches) :
    coloursIn (cells ++ [stitches]) =
      match stitches.cross with
      | none => coloursIn cells
      | some colour =>
        if colour ∈ coloursIn cells then coloursIn cells else coloursIn cells ++ [colour] := by
  rw [coloursIn, List.filterMap_append]
  cases hcross : stitches.cross with
  | none => rw [List.filterMap_cons_none hcross, List.filterMap_nil, List.append_nil]; rfl
  | some colour =>
    rw [List.filterMap_cons_some hcross, List.filterMap_nil, eraseDups_concat]
    simp only [coloursIn, List.mem_eraseDups]

theorem lineGlyph_eq_space_iff (stitches : Stitches) :
    lineGlyph stitches = ' ' ↔ (stitches.hasStraightLine || stitches.hasDiagonal) = false := by
  obtain ⟨_, _, _, _, _, horizontal, vertical, backslash, slash⟩ := stitches
  cases horizontal <;> cases vertical <;> cases backslash <;> cases slash <;>
    simp [lineGlyph, Stitches.hasStraightLine, Stitches.hasDiagonal]

/-- The warnings that cells raise by their lines. -/
def lineWarnings (cells : List Stitches) : List String :=
  cells.filterMap fun stitches => if hidesLine stitches then some stitchAndLineWarning else none

/-- The warnings that colours raise for want of symbols. -/
def symbolWarnings (colours : List String) : List String :=
  (colours.drop alphabet.length).map fun _ => outOfSymbolsWarning

/-- What has been carried along is what the cells tell, but for the order of the warnings. -/
structure Scan.Shows (scan : Scan) (cells : List Stitches) : Prop where
  assigned : scan.assigned = withSymbols (coloursIn cells)
  drawn : scan.drawn = cells.map (glyph (coloursIn cells))
  raised : scan.raised.messages.Perm (lineWarnings cells ++ symbolWarnings (coloursIn cells))

theorem symbolWarnings_concat (colours : List String) (new : String) :
    symbolWarnings (colours ++ [new]) =
      symbolWarnings colours ++
        if colours.length < alphabet.length then [] else [outOfSymbolsWarning] := by
  rw [symbolWarnings, List.drop_append, List.map_append, symbolWarnings]
  split
  next hlt =>
    have hnone : [new].drop (alphabet.length - colours.length) = [] :=
      List.drop_eq_nil_of_le (by rw [List.length_singleton]; omega)
    rw [hnone]
    rfl
  next hge =>
    rw [Nat.sub_eq_zero_of_le (Nat.le_of_not_lt hge)]
    rfl

theorem lineWarnings_concat (cells : List Stitches) (stitches : Stitches) :
    lineWarnings (cells ++ [stitches]) =
      lineWarnings cells ++ if hidesLine stitches then [stitchAndLineWarning] else [] := by
  rw [lineWarnings, List.filterMap_append, ← lineWarnings]
  by_cases h : hidesLine stitches = true <;> simp [h]

/-- The character of an earlier cell is what it was, whatever colour comes new. -/
theorem glyph_concat {cells : List Stitches} (colours : List String)
    (h : ∀ stitches ∈ cells, ∀ colour, stitches.cross = some colour → colour ∈ colours)
    (new : String) : cells.map (glyph (colours ++ [new])) = cells.map (glyph colours) := by
  refine List.map_congr_left fun stitches hs => ?_
  cases hcross : stitches.cross with
  | none => rw [glyph, glyph, hcross]
  | some colour =>
    rw [glyph_of_cross hcross, glyph_of_cross hcross, symbolOf_concat (h stitches hs colour hcross)]

theorem mem_coloursIn {cells : List Stitches} {stitches : Stitches} (hs : stitches ∈ cells)
    {colour : String} (hcross : stitches.cross = some colour) : colour ∈ coloursIn cells := by
  rw [coloursIn, List.mem_eraseDups, List.mem_filterMap]
  exact ⟨stitches, hs, hcross⟩

theorem perm_interleave {α : Type} {raised lines symbols : List α}
    (h : raised.Perm (lines ++ symbols)) (line symbol : List α) :
    (raised ++ line ++ symbol).Perm ((lines ++ line) ++ (symbols ++ symbol)) := by
  refine ((h.append_right line).append_right symbol).trans ?_
  rw [List.append_assoc lines symbols, List.append_assoc lines line, ← List.append_assoc line,
    List.append_assoc lines]
  exact (List.perm_append_comm.append_right symbol).append_left lines

namespace Scan

variable {scan : Scan} {cells : List Stitches} {stitches : Stitches} {colours : List String}

/-! ### One step -/

theorem symbol_of_mem (h : scan.assigned = withSymbols colours) {colour : String}
    (hc : colour ∈ colours) : scan.symbol colour = (scan, symbolOf colours colour) := by
  rw [symbol, h, lookup_withSymbols, if_pos hc]

theorem symbol_of_new (h : scan.assigned = withSymbols colours) {colour : String}
    (hc : colour ∉ colours) :
    scan.symbol colour =
      ((if colours.length < alphabet.length then scan
        else scan.warn outOfSymbolsWarning).assign colour (symbolOf (colours ++ [colour]) colour),
        symbolOf (colours ++ [colour]) colour) := by
  have hlength : scan.assigned.length = colours.length := by rw [h, withSymbols, List.length_map]
  rw [symbol, h, lookup_withSymbols, if_neg hc, ← h, hlength, symbolOf_new hc]
  by_cases hlt : colours.length < alphabet.length
  · simp only [List.getElem?_eq_getElem hlt, if_pos hlt, List.getD_eq_getElem _ _ hlt]
  · have hge := Nat.le_of_not_lt hlt
    simp only [List.getElem?_eq_none hge, if_neg hlt, List.getD_eq_default _ _ hge]

theorem step_of_conflict (h : stitches.conflicts = true) (scan : Scan) :
    scan.step stitches = .error .incompatibleLineCombination := by
  rw [step, drawLines_eq, if_pos h]
  rfl

theorem step_of_bare (hfree : stitches.conflicts = false) (hcross : stitches.cross = none)
    (scan : Scan) : scan.step stitches = .ok (scan.draw (lineGlyph stitches)) := by
  rw [step, drawLines_eq, hfree, hcross]
  rfl

/-- The scan after a cell that may hide a line. -/
def warnOf (scan : Scan) (stitches : Stitches) : Scan :=
  if hidesLine stitches then scan.warn stitchAndLineWarning else scan

theorem step_of_cross (hfree : stitches.conflicts = false) {colour : String}
    (hcross : stitches.cross = some colour) (scan : Scan) :
    scan.step stitches =
      .ok (((scan.warnOf stitches).symbol colour).1.draw
        ((scan.warnOf stitches).symbol colour).2) := by
  have hwarned : (if lineGlyph stitches = ' ' then scan else scan.warn stitchAndLineWarning) =
      scan.warnOf stitches := by
    simp only [warnOf, hidesLine, hcross, Option.isSome_some, Bool.true_and,
      lineGlyph_eq_space_iff]
    cases stitches.hasStraightLine || stitches.hasDiagonal <;> rfl
  rw [step, drawLines_eq, hfree, hcross, ← hwarned]
  rfl

theorem assigned_warnOf : (scan.warnOf stitches).assigned = scan.assigned := by
  rw [warnOf]
  split <;> rfl

theorem drawn_warnOf : (scan.warnOf stitches).drawn = scan.drawn := by
  rw [warnOf]
  split <;> rfl

theorem messages_warnOf : (scan.warnOf stitches).raised.messages = scan.raised.messages ++
    if hidesLine stitches then [stitchAndLineWarning] else [] := by
  rw [warnOf]
  split
  · rfl
  · rw [List.append_nil]

/-- Without a cross, nothing is given out and nothing can be hidden. -/
theorem Shows.draw_bare (h : scan.Shows cells) (hcross : stitches.cross = none) :
    (scan.draw (lineGlyph stitches)).Shows (cells ++ [stitches]) := by
  have hcolours : coloursIn (cells ++ [stitches]) = coloursIn cells := by
    rw [coloursIn_concat, hcross]
  have hvisible : hidesLine stitches = false := by rw [hidesLine, hcross]; rfl
  refine ⟨?_, ?_, ?_⟩
  · rw [hcolours]
    exact h.assigned
  · rw [hcolours, List.map_append, List.map_singleton, glyph, hcross, ← h.drawn]
    rfl
  · rw [hcolours, lineWarnings_concat, hvisible, if_neg Bool.false_ne_true, List.append_nil]
    exact h.raised

theorem Shows.draw_known (h : scan.Shows cells) {colour : String}
    (hcross : stitches.cross = some colour) (hc : colour ∈ coloursIn cells) :
    ((scan.warnOf stitches).draw (symbolOf (coloursIn cells) colour)).Shows
      (cells ++ [stitches]) := by
  have hcolours : coloursIn (cells ++ [stitches]) = coloursIn cells := by
    rw [coloursIn_concat, hcross]
    exact if_pos hc
  refine ⟨?_, ?_, ?_⟩
  · rw [hcolours, ← h.assigned, ← @assigned_warnOf scan stitches]
    rfl
  · rw [hcolours, List.map_append, List.map_singleton, glyph_of_cross hcross, ← h.drawn,
      ← @drawn_warnOf scan stitches]
    rfl
  · have hperm := perm_interleave h.raised
      (if hidesLine stitches then [stitchAndLineWarning] else []) []
    rw [List.append_nil, List.append_nil, ← messages_warnOf] at hperm
    rw [hcolours, lineWarnings_concat]
    exact hperm

theorem Shows.draw_new (h : scan.Shows cells) {colour : String}
    (hcross : stitches.cross = some colour) (hc : colour ∉ coloursIn cells) :
    (((if (coloursIn cells).length < alphabet.length then scan.warnOf stitches
      else (scan.warnOf stitches).warn outOfSymbolsWarning).assign colour
        (symbolOf (coloursIn cells ++ [colour]) colour)).draw
          (symbolOf (coloursIn cells ++ [colour]) colour)).Shows (cells ++ [stitches]) := by
  have hcolours : coloursIn (cells ++ [stitches]) = coloursIn cells ++ [colour] := by
    rw [coloursIn_concat, hcross]
    exact if_neg hc
  refine ⟨?_, ?_, ?_⟩
  · rw [hcolours, withSymbols_concat hc, ← h.assigned, ← @assigned_warnOf scan stitches,
      symbolOf_new hc]
    split <;> rfl
  · rw [hcolours, List.map_append, List.map_singleton, glyph_of_cross hcross,
      glyph_concat _ (fun _ hs _ => mem_coloursIn hs), ← h.drawn, ← @drawn_warnOf scan stitches]
    split <;> rfl
  · have hperm := perm_interleave h.raised
      (if hidesLine stitches then [stitchAndLineWarning] else [])
      (if (coloursIn cells).length < alphabet.length then [] else [outOfSymbolsWarning])
    rw [← messages_warnOf] at hperm
    rw [hcolours, lineWarnings_concat, symbolWarnings_concat, raised_draw, raised_assign]
    by_cases hlt : (coloursIn cells).length < alphabet.length
    · simpa only [if_pos hlt, List.append_nil] using hperm
    · simp only [if_neg hlt] at hperm ⊢
      exact hperm

/-- A cell is drawn as the cells tell, those before it and itself. -/
theorem Shows.step (h : scan.Shows cells) (hfree : stitches.conflicts = false) :
    ∃ next, scan.step stitches = .ok next ∧ next.Shows (cells ++ [stitches]) := by
  cases hcross : stitches.cross with
  | none => exact ⟨_, step_of_bare hfree hcross scan, h.draw_bare hcross⟩
  | some colour =>
    have hassigned : (scan.warnOf stitches).assigned = withSymbols (coloursIn cells) := by
      rw [assigned_warnOf, h.assigned]
    refine ⟨_, step_of_cross hfree hcross scan, ?_⟩
    by_cases hc : colour ∈ coloursIn cells
    · rw [symbol_of_mem hassigned hc]
      exact h.draw_known hcross hc
    · rw [symbol_of_new hassigned hc]
      exact h.draw_new hcross hc

/-! ### The run -/

theorem run_concat (cells : List Stitches) (stitches : Stitches) :
    run (cells ++ [stitches]) = run cells >>= fun scan => scan.step stitches := by
  rw [run, List.foldlM_append]
  simp [run]

/-- Cells that are all free of conflicts are drawn to the end. -/
theorem exists_run (cells : List Stitches) (hfree : ∀ s ∈ cells, s.conflicts = false) :
    ∃ scan, run cells = .ok scan ∧ scan.Shows cells := by
  induction cells using List.reverseRecOn with
  | nil => exact ⟨start, rfl, rfl, rfl, .nil⟩
  | append_singleton cells stitches ih =>
    obtain ⟨scan, hrun, hshows⟩ := ih fun s hs => hfree s (List.mem_append_left _ hs)
    obtain ⟨next, hstep, hnext⟩ := hshows.step (hfree stitches (by simp))
    refine ⟨next, ?_, hnext⟩
    rw [run_concat, hrun]
    exact hstep

/-- At a conflict the scan is given up, and nothing that comes later changes that. -/
theorem run_of_conflict (cells : List Stitches) (h : ∃ s ∈ cells, s.conflicts = true) :
    run cells = .error .incompatibleLineCombination := by
  induction cells using List.reverseRecOn with
  | nil => simp at h
  | append_singleton cells stitches ih =>
    rw [run_concat]
    by_cases hearlier : ∃ s ∈ cells, s.conflicts = true
    · rw [ih hearlier]
      rfl
    · obtain ⟨s, hs, hconf⟩ := h
      have hlast : s = stitches := by
        rcases List.mem_append.mp hs with hs | hs
        · exact absurd ⟨s, hs, hconf⟩ hearlier
        · exact List.mem_singleton.mp hs
      obtain ⟨scan, hrun, _⟩ := exists_run cells fun s hs =>
        Bool.eq_false_iff.mpr fun hc => hearlier ⟨s, hs, hc⟩
      rw [hrun]
      exact step_of_conflict (hlast ▸ hconf) scan

end Scan

/-! ### Charts -/

theorem coloursIn_inOrder (grid : Grid) : coloursIn grid.inOrder = crossColours grid := by
  rw [crossColours, Grid.collect_eq]
  rfl

theorem messages_warnings (grid : Grid) (colours : List String) :
    (warnings grid colours).messages = lineWarnings grid.inOrder ++ symbolWarnings colours := by
  rw [warnings, Grid.collect_eq]
  rfl

namespace Scan

/-- The chart with the symbols that have been given out. -/
def drawing (scan : Scan) (grid : Grid) (options : RenderOptions) : Drawing :=
  ⟨grid, scan.assigned.map Prod.fst, separatorOf options⟩

/-- The legend of the symbols that have been given out. -/
def legend (scan : Scan) (pattern : Pattern) : List String :=
  (scan.assigned.map fun entry =>
    entryLine entry.2 ((pattern.usage? entry.1).getD ⟨entry.1, 0⟩)).mergeSort fun a b => a ≤ b

end Scan

variable {pattern : Pattern} {options : RenderOptions} {grid : Grid}

/-- A text chart comes of a scan of its cells. -/
theorem render_eq_scanned (hg : Grid.ofPattern pattern (pattern.size + surplus) = .ok grid) :
    match Scan.run grid.inOrder with
    | .error kind => render pattern options = .error (.bare kind)
    | .ok scan =>
      scan.drawn = (positions grid.extent).map (fun p =>
        (scan.drawing grid options).cellMark p.1 p.2) ∧
      render pattern options = .ok (Text.unlines ((scan.drawing grid options).chart ++ ["---"] ++
        scan.legend pattern ++ scan.raised.summary.map warningLine)) := by
  rw [render_of_grid hg, Grid.find?_eq]
  cases hfind : grid.inOrder.find? Stitches.conflicts with
  | some stitches =>
    have hconf : ∃ s ∈ grid.inOrder, s.conflicts = true :=
      ⟨stitches, List.mem_of_find?_eq_some hfind, List.find?_some hfind⟩
    rw [Scan.run_of_conflict _ hconf]
    rfl
  | none =>
    have hfree : ∀ s ∈ grid.inOrder, s.conflicts = false := by
      simpa using List.find?_eq_none.mp hfind
    obtain ⟨scan, hrun, hshows⟩ := Scan.exists_run _ hfree
    obtain ⟨hassigned, hdrawn, hraised⟩ := hshows
    rw [coloursIn_inOrder] at hassigned hdrawn hraised
    rw [← messages_warnings] at hraised
    have hcolours : scan.assigned.map Prod.fst = crossColours grid := by
      rw [hassigned, withSymbols, List.map_map]
      exact List.map_id _
    have hdrawing : scan.drawing grid options = drawingOf grid options := by
      rw [Scan.drawing, hcolours]
      rfl
    have hlegend : scan.legend pattern = legend pattern (crossColours grid) := by
      rw [Scan.legend, hassigned, withSymbols, List.map_map]
      rfl
    have hsummary : scan.raised.summary = (warnings grid (crossColours grid)).summary :=
      (Warnings.summarises_summary _).unique (Warnings.summarises_summary _) hraised
    rw [hrun]
    dsimp only
    rw [hdrawing, hlegend, hsummary]
    refine ⟨?_, ?_⟩
    · rw [hdrawn, Grid.inOrder, List.map_map]
      rfl
    · exact congrArg Except.ok wholeText_eq_unlines_printedLines

end Ascii

/-- A page comes of the lines in its cells. -/
theorem Html.chart_eq_drawn {pattern : Pattern} {grid : Grid}
    (hg : Grid.ofPattern pattern (pattern.size + 1) = .ok grid) :
    chart pattern = match grid.inOrder.mapM drawLines with
      | .error kind => .error (.bare kind)
      | .ok _ => .ok (wholeChart pattern grid) := by
  rw [chart_of_grid hg, Grid.find?_eq, mapM_drawLines]
  cases grid.inOrder.find? Stitches.conflicts <;> rfl

end CrossStitch
