import CrossStitch.Proofs.Action.Refusal
import CrossStitch.Proofs.Text.Parts

/-! What palette lines mean. Each line gives one symbol a colour, so a palette block is a list of
assignments and makes the same palette in any order. A block with a bad line is refused for the
first of them, and what is wrong with a line is looked for in the line itself before its symbol
is looked up among the ones assigned so far. -/

namespace CrossStitch

/-- A symbol and the colour it is given, as it stands in the line. -/
abbrev Assignment := Char × List Char

/-- The entry of an assignment, with the colour that the resolver finds. -/
def Resolver.entryOf (resolver : Resolver) (assignment : Assignment) : PaletteEntry :=
  let raw := String.ofList (Text.trim assignment.2)
  ⟨assignment.1, raw, resolver.resolveOrLiteral raw⟩

/-- The line falls into two parts, the symbol alone and the colour. -/
def AssignmentLine (line : String) (assignment : Assignment) : Prop :=
  Text.FallsInto assignmentMark line.toList [[assignment.1], assignment.2]

/-- The lines make the assignments, one each, and no symbol is assigned twice. -/
structure AssignmentLines (lines : List String) (assignments : List Assignment) : Prop where
  each : List.Forall₂ AssignmentLine lines assignments
  distinct : (assignments.map Prod.fst).Nodup

/-- What is wrong with a palette line, if the given symbols have been assigned before it. -/
inductive FaultyAssignment (taken : List Char) (line : String) : ChartFault → Prop
  | parts {parts : List (List Char)} (h : Text.FallsInto assignmentMark line.toList parts)
      (hn : parts.length ≠ 2) : FaultyAssignment taken line .invalidPaletteAssignment
  | symbol {symbol colour : List Char}
      (h : Text.FallsInto assignmentMark line.toList [symbol, colour]) (hn : symbol.length ≠ 1) :
      FaultyAssignment taken line .onlySingleCharactersAllowed
  | reuse {assignment : Assignment} (h : AssignmentLine line assignment)
      (ht : assignment.1 ∈ taken) : FaultyAssignment taken line .characterReused

/-- The palette has one entry for each of the assignments and no others. -/
def Palette.MadeBy (resolver : Resolver) (palette : Palette) (assignments : List Assignment) :
    Prop :=
  palette.toList.Perm (assignments.map fun a => (a.1, resolver.entryOf a))

/-- The palette into which the entries of the assignments are put in order. -/
def Resolver.paletteOf (resolver : Resolver) (assignments : List Assignment) : Palette :=
  Palette.extend ∅ (assignments.map resolver.entryOf)

def Session.withPalette (session : Session) (palette : Palette) : Session :=
  { session with current := { session.current with palette } }

/-! ### One line -/

theorem assignmentMark_ne_nil : assignmentMark ≠ [] := by decide

section Line

variable {colours : ColourTable} {line : String}

theorem isAssignment_iff {entry : PaletteEntry} :
    IsAssignment colours line entry ↔ ∃ assignment, AssignmentLine line assignment ∧
      entry = Resolver.entryOf colours.resolve assignment := by
  constructor
  · rintro ⟨⟨colour, htext, hmark, hraw⟩, hresolved⟩
    refine ⟨(entry.symbol, colour), ?_, ?_⟩
    · rw [AssignmentLine, ← Text.pair?_eq_some_iff_fallsInto assignmentMark_ne_nil]
      exact pair?_assignmentMark_iff.mpr ⟨htext, hmark⟩
    · obtain ⟨symbol, raw, resolved⟩ := entry
      simp only at hraw hresolved
      subst hraw hresolved
      rfl
  · rintro ⟨⟨symbol, colour⟩, hline, rfl⟩
    have hpair := (Text.pair?_eq_some_iff_fallsInto assignmentMark_ne_nil).mpr hline
    obtain ⟨htext, hmark⟩ := pair?_assignmentMark_iff.mp hpair
    exact ⟨⟨colour, htext, hmark, rfl⟩, rfl⟩

/-- A line is refused for what is wrong with it. -/
theorem readAssignment_eq_error_iff {palette : Palette} {taken : List Char}
    (ht : ∀ symbol, symbol ∈ palette ↔ symbol ∈ taken) {kind : ChartFault} :
    Session.readAssignment colours palette line = .error kind ↔
      FaultyAssignment taken line kind := by
  have hpair {before after : List Char} :
      Text.pair? assignmentMark line.toList = some (before, after) ↔
        Text.FallsInto assignmentMark line.toList [before, after] :=
    Text.pair?_eq_some_iff_fallsInto assignmentMark_ne_nil
  have hother : Text.pair? assignmentMark line.toList = none ↔ _ :=
    Text.pair?_eq_none_iff_fallsInto assignmentMark_ne_nil
  constructor
  · intro h
    unfold Session.readAssignment at h
    split at h
    next hnone =>
      cases h
      obtain ⟨parts, hparts, hlength⟩ := hother.mp hnone
      exact .parts hparts hlength
    next symbol colour hsome =>
      split at h
      next hused =>
        cases h
        have hmem := (ht symbol).mp (Std.ExtTreeMap.mem_iff_contains.mpr hused)
        have hline : AssignmentLine line (symbol, colour) := hpair.mp hsome
        exact .reuse hline hmem
      next => cases h
    next found hsingle hsome =>
      cases h
      refine .symbol (hpair.mp hsome) fun hlength => ?_
      obtain ⟨symbol, hsymbol⟩ := List.length_eq_one_iff.mp hlength
      exact hsingle symbol found.2 (Prod.ext hsymbol rfl)
  · intro h
    unfold Session.readAssignment
    cases h with
    | parts hparts hlength => rw [hother.mpr ⟨_, hparts, hlength⟩]
    | symbol hparts hlength =>
      rw [hpair.mpr hparts]
      split
      next hnone => cases hnone
      next symbol colour hsome =>
        cases hsome
        exact absurd rfl hlength
      next => rfl
    | reuse hline hmem =>
      rw [hpair.mpr hline]
      exact if_pos (Std.ExtTreeMap.mem_iff_contains.mp ((ht _).mpr hmem))

end Line

/-! ### Palettes of assignments -/

section Palettes

variable {resolver : Resolver} {assignments : List Assignment}

theorem Resolver.map_symbol_entryOf (resolver : Resolver) (assignments : List Assignment) :
    (assignments.map resolver.entryOf).map PaletteEntry.symbol = assignments.map Prod.fst := by
  rw [List.map_map]
  rfl

theorem Resolver.getElem?_paletteOf_eq_some_iff (hd : (assignments.map Prod.fst).Nodup)
    {symbol : Char} {entry : PaletteEntry} :
    (resolver.paletteOf assignments)[symbol]? = some entry ↔
      ∃ a ∈ assignments, (a.1, resolver.entryOf a) = (symbol, entry) := by
  rw [← resolver.map_symbol_entryOf] at hd
  rw [paletteOf, Palette.getElem?_extend_eq_some_iff hd, List.mem_map]
  constructor
  · rintro ⟨⟨a, ha, rfl⟩, rfl⟩
    exact ⟨a, ha, rfl⟩
  · rintro ⟨a, ha, heq⟩
    cases heq
    exact ⟨⟨a, ha, rfl⟩, rfl⟩

theorem Resolver.mem_paletteOf (hd : (assignments.map Prod.fst).Nodup) (symbol : Char) :
    symbol ∈ resolver.paletteOf assignments ↔ symbol ∈ assignments.map Prod.fst := by
  rw [Std.ExtTreeMap.mem_iff_isSome_getElem?, Option.isSome_iff_exists, List.mem_map]
  simp only [getElem?_paletteOf_eq_some_iff hd]
  constructor
  · rintro ⟨_, a, ha, heq⟩
    exact ⟨a, ha, congrArg Prod.fst heq⟩
  · rintro ⟨a, ha, rfl⟩
    exact ⟨_, a, ha, rfl⟩

theorem Palette.nodup_toList (palette : Palette) : palette.toList.Nodup := by
  refine List.Nodup.of_map Prod.fst ?_
  rw [Std.ExtTreeMap.map_fst_toList_eq_keys]
  exact Std.ExtTreeMap.nodup_keys

theorem Resolver.madeBy_paletteOf (hd : (assignments.map Prod.fst).Nodup) :
    (resolver.paletteOf assignments).MadeBy resolver assignments := by
  have hkeyed : (assignments.map fun a => (a.1, resolver.entryOf a)).Nodup := by
    refine List.Nodup.of_map Prod.fst ?_
    rwa [List.map_map]
  refine (List.perm_ext_iff_of_nodup (Palette.nodup_toList _) hkeyed).mpr ?_
  rintro ⟨symbol, entry⟩
  rw [Std.ExtTreeMap.mem_toList_iff_getElem?_eq_some, getElem?_paletteOf_eq_some_iff hd,
    List.mem_map]

/-- A palette is told by its assignments, in whatever order they are made. -/
theorem Palette.MadeBy.unique {palette other : Palette} {others : List Assignment}
    (h : palette.MadeBy resolver assignments) (h' : other.MadeBy resolver others)
    (hperm : assignments.Perm others) : palette = other := by
  have hlists : palette.toList.Perm other.toList := (h.trans (hperm.map _)).trans h'.symm
  apply Std.ExtTreeMap.ext_getElem?
  intro symbol
  apply Option.ext
  intro entry
  simp only [← Std.ExtTreeMap.mem_toList_iff_getElem?_eq_some, hlists.mem_iff]

theorem Palette.madeBy_iff (hd : (assignments.map Prod.fst).Nodup) {palette : Palette} :
    palette.MadeBy resolver assignments ↔ palette = resolver.paletteOf assignments := by
  constructor
  · exact fun h => h.unique (resolver.madeBy_paletteOf hd) (.refl _)
  · rintro rfl
    exact resolver.madeBy_paletteOf hd

end Palettes

/-! ### All lines of a block -/

section Lines

variable {colours : ColourTable} {lines : List String}

theorem forall₂_isAssignment_iff {entries : List PaletteEntry} :
    List.Forall₂ (IsAssignment colours) lines entries ↔
      ∃ assignments, List.Forall₂ AssignmentLine lines assignments ∧
        entries = assignments.map (Resolver.entryOf colours.resolve) := by
  constructor
  · intro h
    induction h with
    | nil => exact ⟨[], .nil, rfl⟩
    | cons hline _ ih =>
      obtain ⟨assignment, hfirst, rfl⟩ := isAssignment_iff.mp hline
      obtain ⟨assignments, hrest, rfl⟩ := ih
      exact ⟨assignment :: assignments, .cons hfirst hrest, rfl⟩
  · rintro ⟨assignments, hlines, rfl⟩
    rw [List.forall₂_map_right_iff]
    exact hlines.imp fun _ assignment hline => isAssignment_iff.mpr ⟨assignment, hline, rfl⟩

theorem readPalette_eq_none_iff_lines {next : Palette} :
    Session.readPalette colours ∅ lines = (next, none) ↔
      ∃ assignments, AssignmentLines lines assignments ∧
        next = Resolver.paletteOf colours.resolve assignments := by
  rw [readPalette_eq_none_iff]
  constructor
  · rintro ⟨entries, hentries, hdistinct, _, rfl⟩
    obtain ⟨assignments, hlines, rfl⟩ := forall₂_isAssignment_iff.mp hentries
    rw [Resolver.map_symbol_entryOf] at hdistinct
    exact ⟨assignments, ⟨hlines, hdistinct⟩, rfl⟩
  · rintro ⟨assignments, ⟨hlines, hdistinct⟩, rfl⟩
    rw [← Resolver.map_symbol_entryOf colours.resolve] at hdistinct
    exact ⟨_, forall₂_isAssignment_iff.mpr ⟨assignments, hlines, rfl⟩, hdistinct,
      fun _ _ => Std.ExtTreeMap.not_mem_empty, rfl⟩

/-- Reading stops at a line that is refused after the lines before it. -/
theorem readPalette_append {palette next : Palette} {good rest : List String} {bad : String}
    {kind : ChartFault} (hgood : Session.readPalette colours palette good = (next, none))
    (hbad : Session.readAssignment colours next bad = .error kind) :
    Session.readPalette colours palette (good ++ bad :: rest) = (next, some kind) := by
  induction good generalizing palette with
  | nil =>
    cases hgood
    rw [List.nil_append, Session.readPalette, hbad]
  | cons line good ih =>
    rw [Session.readPalette] at hgood
    rw [List.cons_append, Session.readPalette]
    split at hgood
    · cases hgood
    · exact ih hgood

/-- The first bad line decides what a palette block is refused for. -/
theorem exists_readPalette_eq_some_iff {kind : ChartFault} :
    (∃ next, Session.readPalette colours ∅ lines = (next, some kind)) ↔
      ∃ good bad rest assignments, lines = good ++ bad :: rest ∧
        AssignmentLines good assignments ∧
        FaultyAssignment (assignments.map Prod.fst) bad kind := by
  constructor
  · rintro ⟨next, h⟩
    obtain ⟨good, bad, rest, rfl, hgood, hbad⟩ := Session.readPalette_eq_some h
    obtain ⟨assignments, hlines, rfl⟩ := readPalette_eq_none_iff_lines.mp hgood
    exact ⟨good, bad, rest, assignments, rfl, hlines,
      (readAssignment_eq_error_iff (Resolver.mem_paletteOf hlines.distinct)).mp hbad⟩
  · rintro ⟨good, bad, rest, assignments, rfl, hlines, hbad⟩
    exact ⟨_, readPalette_append (readPalette_eq_none_iff_lines.mpr ⟨assignments, hlines, rfl⟩)
      ((readAssignment_eq_error_iff (Resolver.mem_paletteOf hlines.distinct)).mpr hbad)⟩

/-- Lines in another order make the same assignments in another order. -/
theorem AssignmentLines.exists_perm {others : List String} {assignments : List Assignment}
    (h : AssignmentLines lines assignments) (hperm : others.Perm lines) :
    ∃ moved, AssignmentLines others moved ∧ moved.Perm assignments := by
  obtain ⟨moved, heach, hmoved⟩ := List.perm_comp_forall₂ hperm h.each
  exact ⟨moved, ⟨heach, (hmoved.map Prod.fst).nodup_iff.mpr h.distinct⟩, hmoved⟩

end Lines

/-! ### Feeding a palette block -/

namespace Session

variable {colours : ColourTable} {session : Session} {lines : List String}

theorem feed_palette_eq_ok_iff {after : Session} :
    session.feed colours ⟨"palette", lines⟩ = (after, .ok ()) ↔
      ∃ assignments, AssignmentLines lines assignments ∧
        after = session.withPalette (Resolver.paletteOf colours.resolve assignments) := by
  have hread : session.feed colours ⟨"palette", lines⟩ = (after, .ok ()) ↔
      ∃ palette, readPalette colours ∅ lines = (palette, none) ∧
        after = session.withPalette palette := by
    simp only [feed, BlockKind.ofWord?]
    cases readPalette colours ∅ lines with
    | mk palette fault? => cases fault? <;> simp [withPalette, eq_comm]
  rw [hread]
  constructor
  · rintro ⟨palette, hpalette, rfl⟩
    obtain ⟨assignments, hlines, rfl⟩ := readPalette_eq_none_iff_lines.mp hpalette
    exact ⟨assignments, hlines, rfl⟩
  · rintro ⟨assignments, hlines, rfl⟩
    exact ⟨_, readPalette_eq_none_iff_lines.mpr ⟨assignments, hlines, rfl⟩, rfl⟩

theorem feed_palette_eq_error_iff {fault : Fault} :
    (session.feed colours ⟨"palette", lines⟩).2 = .error fault ↔
      ∃ kind, fault = .chart kind lines ∧
        ∃ next, readPalette colours ∅ lines = (next, some kind) := by
  simp only [feed, BlockKind.ofWord?]
  cases readPalette colours ∅ lines with
  | mk palette fault? => cases fault? <;> simp [eq_comm]

end Session

/-- A palette is made with a table of the names in its lines as it is made with the resolver. -/
theorem Resolver.paletteOf_tabulate (resolver : Resolver) {lines : List String}
    {assignments : List Assignment} (h : List.Forall₂ AssignmentLine lines assignments) :
    paletteOf (resolver.tabulate (Block.mk "palette" lines).spellings).resolve assignments =
      resolver.paletteOf assignments := by
  rw [paletteOf, paletteOf]
  congr 1
  apply List.map_congr_left
  intro assignment ha
  obtain ⟨line, hl, hline⟩ := exists_left_of_forall₂ h ha
  have hspelling : spelling? line = some (String.ofList (Text.trim assignment.2)) := by
    rw [spelling?, (Text.pair?_eq_some_iff_fallsInto assignmentMark_ne_nil).mpr hline]
  have hname : _ ∈ (Block.mk "palette" lines).spellings := Block.mem_spellings rfl hl hspelling
  have hresolved := resolver.resolveOrLiteral_tabulate hname
  exact congrArg (PaletteEntry.mk assignment.1 _) hresolved

namespace Session

variable {resolver : Resolver} {session : Session} {lines : List String}

theorem feedBy_palette_eq_ok_iff {after : Session} :
    session.feedBy resolver ⟨"palette", lines⟩ = (after, .ok ()) ↔
      ∃ assignments palette, AssignmentLines lines assignments ∧
        palette.MadeBy resolver assignments ∧ after = session.withPalette palette := by
  rw [feedBy, feed_palette_eq_ok_iff]
  refine exists_congr fun assignments => ?_
  constructor
  · rintro ⟨hlines, rfl⟩
    rw [Resolver.paletteOf_tabulate resolver hlines.each]
    exact ⟨_, hlines, resolver.madeBy_paletteOf hlines.distinct, rfl⟩
  · rintro ⟨palette, hlines, hmade, rfl⟩
    rw [(Palette.madeBy_iff hlines.distinct).mp hmade, resolver.paletteOf_tabulate hlines.each]
    exact ⟨hlines, rfl⟩

end Session

/-- A palette block is accepted if each of its lines makes an assignment and no symbol is assigned
twice. Then the palette has their entries and no others, whatever it was before and in whatever
order the lines stand. Otherwise the block is refused for the first bad line. -/
theorem palette_block_means_assignments (resolver : Resolver) (session : Session)
    (lines : List String) :
    (∀ after, session.feedBy resolver ⟨"palette", lines⟩ = (after, .ok ()) ↔
      ∃ assignments palette, AssignmentLines lines assignments ∧
        palette.MadeBy resolver assignments ∧ after = session.withPalette palette) ∧
    (∀ others after, others.Perm lines →
      session.feedBy resolver ⟨"palette", lines⟩ = (after, .ok ()) →
      session.feedBy resolver ⟨"palette", others⟩ = (after, .ok ())) ∧
    ∀ fault, (session.feedBy resolver ⟨"palette", lines⟩).2 = .error fault ↔
      ∃ good bad rest assignments kind, lines = good ++ bad :: rest ∧
        AssignmentLines good assignments ∧
        FaultyAssignment (assignments.map Prod.fst) bad kind ∧ fault = .chart kind lines := by
  refine ⟨fun _ => Session.feedBy_palette_eq_ok_iff, fun others after hperm h => ?_,
    fun fault => ?_⟩
  · obtain ⟨assignments, palette, hlines, hmade, rfl⟩ := Session.feedBy_palette_eq_ok_iff.mp h
    obtain ⟨moved, hothers, hmoved⟩ := hlines.exists_perm hperm
    exact Session.feedBy_palette_eq_ok_iff.mpr
      ⟨moved, palette, hothers, hmade.trans (hmoved.map _).symm, rfl⟩
  · rw [Session.feedBy, Session.feed_palette_eq_error_iff]
    constructor
    · rintro ⟨kind, rfl, hread⟩
      obtain ⟨good, bad, rest, assignments, hlines, hgood, hbad⟩ :=
        exists_readPalette_eq_some_iff.mp hread
      exact ⟨good, bad, rest, assignments, kind, hlines, hgood, hbad, rfl⟩
    · rintro ⟨good, bad, rest, assignments, kind, hlines, hgood, hbad, rfl⟩
      exact ⟨kind, rfl, exists_readPalette_eq_some_iff.mpr
        ⟨good, bad, rest, assignments, hlines, hgood, hbad⟩⟩

/-- Two lines for characters of the mark. In the second, another mark begins where the first one
ends. -/
def markLines : List String := ["= => red", "> => => blue"]

theorem assignmentLines_markLines :
    AssignmentLines markLines [('=', "red".toList), ('>', "=> blue".toList)] := by
  have hpairs : List.Forall₂ (fun (line : String) (a : Assignment) =>
      Text.pair? assignmentMark line.toList = some ([a.1], a.2)) markLines
        [('=', "red".toList), ('>', "=> blue".toList)] := by
    decide +kernel
  exact ⟨hpairs.imp fun _ _ => (Text.pair?_eq_some_iff_fallsInto assignmentMark_ne_nil).mp,
    by decide⟩

/-- The two lines make the same palette in either order. A line that uses a symbol again is refused
for that, unless there is a bad line before it. -/
theorem markLines_assigned :
    ∃ after, Session.start.feedBy (fun _ => none) ⟨"palette", markLines⟩ = (after, .ok ()) ∧
      Session.start.feedBy (fun _ => none) ⟨"palette", markLines.reverse⟩ = (after, .ok ()) ∧
      after.current.palette.toList.Perm
        [('=', ⟨'=', "red", "red"⟩), ('>', ⟨'>', "=> blue", "=> blue"⟩)] ∧
      (Session.start.feedBy (fun _ => none) ⟨"palette", markLines ++ ["= => blue", "=>"]⟩).2 =
        .error (.chart .characterReused (markLines ++ ["= => blue", "=>"])) := by
  obtain ⟨haccepted, hmoved, _⟩ :=
    palette_block_means_assignments (fun _ => none) Session.start markLines
  have hlines := assignmentLines_markLines
  have hmade : Palette.MadeBy (fun _ => none) _ _ := Resolver.madeBy_paletteOf hlines.distinct
  have hfeed := (haccepted _).mpr ⟨_, _, hlines, hmade, rfl⟩
  have hrefused := (palette_block_means_assignments (fun _ => none) Session.start
    (markLines ++ ["= => blue", "=>"])).2.2
  refine ⟨_, hfeed, hmoved _ _ (List.reverse_perm _) hfeed, hmade, ?_⟩
  refine (hrefused _).mpr ⟨markLines, "= => blue", ["=>"], _, _, rfl, hlines, ?_, rfl⟩
  have hpair : Text.pair? assignmentMark "= => blue".toList = some (['='], "blue".toList) := by
    decide +kernel
  have hline : AssignmentLine "= => blue" ('=', "blue".toList) :=
    (Text.pair?_eq_some_iff_fallsInto assignmentMark_ne_nil).mp hpair
  exact .reuse hline (by decide)

end CrossStitch
