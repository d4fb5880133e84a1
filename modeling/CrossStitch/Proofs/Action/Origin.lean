import CrossStitch.Proofs.Action.Printing
import CrossStitch.Proofs.Action.Segment

/-! Where the parts of an action come from. A palette comes whole from one palette block, and the
drawing of an action is the lines of the last pattern block before the block that seals it. Both
are read off the blocks that a session has been fed, so what is known of the blocks is known of
the actions. -/

namespace CrossStitch

/-- The block leaves the drawing in preparation as it is, if it is accepted. -/
def Block.KeepsDrawing (block : Block) : Prop :=
  block.mode ≠ BlockKind.pattern.word ∧ block.mode ≠ BlockKind.action.word

/-- The action gets its drawing from the block that comes after the blocks `before`, and is sealed
before there is another one. -/
def Action.DrawnBy (colours : ColourTable) (blocks before : List Block) (block : Block)
    (action : Action) : Prop :=
  block.mode = BlockKind.pattern.word ∧ action.rows = block.lines ∧
    ∃ later sealing after session, blocks = before ++ block :: (later ++ sealing :: after) ∧
      (∀ other ∈ later, other.KeepsDrawing) ∧ sealing.mode = BlockKind.action.word ∧
      Session.start.feedAll colours (before ++ block :: later) = .ok session ∧
      session.current = action

namespace Session

variable {colours : ColourTable} {session next : Session} {blocks : List Block}

/-! ### Requests -/

/-- A commit moves the action over, and every other request sets its own part of it. -/
theorem cases_of_grant {request : Request} (h : session.grant request = some next) :
    (request = .commit ∧ session.current.rows ≠ [] ∧ session.current.mode ≠ none ∧
      next = ⟨{ session.current with rows := [], mode := none },
        session.committed ++ [session.current]⟩) ∨
    (request ≠ .commit ∧ next.current.palette = request.palette?.getD session.current.palette ∧
      next.current.rows = request.rows?.getD session.current.rows ∧
      next.committed = session.committed) := by
  cases request with
  | palette palette =>
    cases h
    exact .inr ⟨by simp, rfl, rfl, rfl⟩
  | pattern rows =>
    rw [grant] at h
    split at h
    · cases h
    · cases h
      exact .inr ⟨by simp, rfl, rfl, rfl⟩
  | mode mode =>
    rw [grant] at h
    split at h
    · cases h
    · cases h
      exact .inr ⟨by simp, rfl, rfl, rfl⟩
  | offset offset =>
    cases h
    exact .inr ⟨by simp, rfl, rfl, rfl⟩
  | commit =>
    rw [grant] at h
    split at h
    next hready =>
      cases h
      simp only [Action.hasPattern, Bool.and_eq_true, Bool.not_eq_true', List.isEmpty_eq_false_iff,
        Option.isSome_iff_ne_none] at hready
      exact .inl ⟨rfl, hready.1, hready.2, rfl⟩
    · cases h

/-! ### Blocks -/

theorem keepsDrawing_of_kind {block : Block} {kind : BlockKind} (hmode : block.mode = kind.word)
    (hpattern : kind ≠ .pattern) (haction : kind ≠ .action) : block.KeepsDrawing := by
  rw [Block.KeepsDrawing, hmode]
  cases kind with
  | pattern => exact absurd rfl hpattern
  | action => exact absurd rfl haction
  | palette | mode | offset => decide

/-- The palette is the one there was or comes from one of the blocks. -/
theorem palette_of_feedAll (h : session.feedAll colours blocks = .ok next) :
    next.current.palette = session.current.palette ∨
      ∃ block ∈ blocks, (Request.palette next.current.palette).WrittenAs colours block.lines := by
  induction blocks generalizing session with
  | nil =>
    cases h
    exact .inl rfl
  | cons block blocks ih =>
    obtain ⟨request, after, ⟨_, hlines⟩, hgrant, hrest⟩ := feedAll_cons_eq_ok_iff.mp h
    rcases ih hrest with hsame | ⟨other, hother, hwritten⟩
    · rcases cases_of_grant hgrant with ⟨rfl, _, _, rfl⟩ | ⟨_, hpalette, _⟩
      · exact .inl hsame
      rw [hsame, hpalette]
      cases request with
      | palette palette => exact .inr ⟨block, List.mem_cons_self, hlines⟩
      | _ => exact .inl rfl
    · exact .inr ⟨other, List.mem_cons_of_mem block hother, hwritten⟩

/-- A drawing is the one there was or the lines of the last pattern block. -/
theorem drawing_of_feedAll (h : session.feedAll colours blocks = .ok next)
    (hne : next.current.rows ≠ []) :
    (next.current.rows = session.current.rows ∧ ∀ block ∈ blocks, block.KeepsDrawing) ∨
      ∃ before block later, blocks = before ++ block :: later ∧
        block.mode = BlockKind.pattern.word ∧ next.current.rows = block.lines ∧
        ∀ other ∈ later, other.KeepsDrawing := by
  induction blocks generalizing session with
  | nil =>
    cases h
    exact .inl ⟨rfl, nofun⟩
  | cons block blocks ih =>
    obtain ⟨request, after, ⟨hmode, hlines⟩, hgrant, hrest⟩ := feedAll_cons_eq_ok_iff.mp h
    rcases ih hrest with ⟨hsame, hkeep⟩ | ⟨before, other, later, rfl, found⟩
    -- the later blocks keep the drawing, so it is what this block leaves
    · rcases cases_of_grant hgrant with ⟨rfl, _, _, rfl⟩ | ⟨hcommit, _, hrows, _⟩
      · exact absurd hsame hne
      rw [hrows] at hsame
      cases request with
      | pattern rows => exact .inr ⟨[], block, blocks, rfl, hmode, hsame.trans hlines.symm, hkeep⟩
      | commit => exact absurd rfl hcommit
      | palette | mode | offset =>
        have hfirst := keepsDrawing_of_kind hmode nofun nofun
        exact .inl ⟨hsame, List.forall_mem_cons.mpr ⟨hfirst, hkeep⟩⟩
    · exact .inr ⟨block :: before, other, later, rfl, found⟩

/-- A committed action was there before, or one of the blocks seals it. -/
theorem sealing_of_feedAll (h : session.feedAll colours blocks = .ok next) {action : Action}
    (ha : action ∈ next.committed) :
    action ∈ session.committed ∨
      ∃ before sealing after reached, blocks = before ++ sealing :: after ∧
        sealing.mode = BlockKind.action.word ∧ session.feedAll colours before = .ok reached ∧
        reached.current = action ∧ action.rows ≠ [] := by
  induction blocks generalizing session with
  | nil =>
    cases h
    exact .inl ha
  | cons block blocks ih =>
    obtain ⟨request, after, hasks, hgrant, hrest⟩ := feedAll_cons_eq_ok_iff.mp h
    rcases ih hrest with hold | ⟨before, sealing, rest, reached, rfl, hsealing, hreached, found⟩
    · rcases cases_of_grant hgrant with ⟨rfl, hrows, _, rfl⟩ | ⟨_, _, _, hcommitted⟩
      · rcases List.mem_append.mp hold with hold | hold
        · exact .inl hold
        · cases List.mem_singleton.mp hold
          exact .inr ⟨[], block, blocks, session, rfl, hasks.1, rfl, rfl, hrows⟩
      · exact .inl (hcommitted ▸ hold)
    · exact .inr ⟨block :: before, sealing, rest, reached, rfl, hsealing,
        feedAll_cons_eq_ok_iff.mpr ⟨request, after, hasks, hgrant, hreached⟩, found⟩

end Session

/-! ### Actions -/

/-- Every action of a list of blocks is drawn by one of them. Its palette comes from one of them
too, unless it is empty. -/
theorem origin_of_actionsOfBlocks {colours : ColourTable} {blocks : List Block}
    {actions : List Action} (h : actionsOfBlocks colours blocks = .ok actions) {action : Action}
    (ha : action ∈ actions) :
    (∃ before block, action.DrawnBy colours blocks before block) ∧
      (action.palette = ∅ ∨
        ∃ block ∈ blocks, (Request.palette action.palette).WrittenAs colours block.lines) := by
  obtain ⟨session, hfeed, hfinish⟩ := bind_eq_ok_iff.mp h
  obtain ⟨_, rfl⟩ := finish_eq_ok_iff.mp hfinish
  rcases Session.sealing_of_feedAll hfeed ha with
    hnone | ⟨fed, sealing, after, reached, rfl, hsealing, hreached, rfl, hrows⟩
  · cases hnone
  constructor
  · rcases Session.drawing_of_feedAll hreached hrows with
      ⟨hnone, _⟩ | ⟨before, block, later, rfl, hmode, hlines, hkeep⟩
    · exact absurd hnone hrows
    · exact ⟨before, block, hmode, hlines, later, sealing, after, reached, by simp, hkeep, hsealing,
        hreached, rfl⟩
  · rcases Session.palette_of_feedAll hreached with hnone | ⟨block, hblock, hwritten⟩
    · exact .inl hnone
    · exact .inr ⟨block, List.mem_append_left _ hblock, hwritten⟩

/-- A symbol of a palette is the first character of a palette line. -/
theorem exists_line_of_mem_palette {colours : ColourTable} {lines : List String}
    {palette : Palette} (h : (Request.palette palette).WrittenAs colours lines) {symbol : Char}
    (hs : symbol ∈ palette) : ∃ line ∈ lines, line.toList.head? = some symbol := by
  obtain ⟨entries, hentries, hdistinct, rfl⟩ := h
  obtain ⟨entry, hentry⟩ := Option.isSome_iff_exists.mp
    (Std.ExtTreeMap.mem_iff_isSome_getElem?.mp hs)
  obtain ⟨he, rfl⟩ := (Palette.getElem?_extend_eq_some_iff hdistinct).mp hentry
  obtain ⟨line, hl, hline⟩ := exists_left_of_forall₂ hentries he
  obtain ⟨colour, htext, _⟩ := hline.parts
  exact ⟨line, hl, by rw [htext, List.head?_cons]⟩

end CrossStitch
