import CrossStitch.Proofs.Action.Origin
import CrossStitch.Proofs.Action.Refusal

/-! What is committed. A commit is refused while there is no drawing or no mode, and all entries
of a palette come from palette lines, even if the block was refused at a later line. So whatever
blocks a session is fed, the actions it commits are complete. None of them is given up for want
of a mode when they are painted. -/

namespace CrossStitch

/-- Entries as palette lines make them, each under its symbol. -/
structure Palette.SpelledBy (resolver : Resolver) (palette : Palette) : Prop where
  keyed : palette.Keyed
  trimmed : ∀ (symbol : Char) (entry : PaletteEntry), palette[symbol]? = some entry →
    Text.Trimmed entry.raw.toList
  resolved : ∀ (symbol : Char) (entry : PaletteEntry), palette[symbol]? = some entry →
    entry.resolved = resolver.resolveOrLiteral entry.raw

/-- The action has a drawing, a mode, and a palette from palette lines. -/
structure Action.CompleteBy (resolver : Resolver) (action : Action) : Prop where
  rows : action.rows ≠ []
  mode : action.mode ≠ none
  palette : action.palette.SpelledBy resolver

/-- The invariant of a session. The palette in preparation may come from a refused block. -/
structure Session.SoundBy (resolver : Resolver) (session : Session) : Prop where
  current : session.current.palette.SpelledBy resolver
  committed : ∀ action ∈ session.committed, action.CompleteBy resolver

/-- What a block can do to a session, be it accepted or refused. -/
inductive Session.Step (resolver : Resolver) (session : Session) : Session → Prop
  /-- The action in preparation is changed, with its palette kept or made anew. -/
  | edit (action : Action) (h : action.palette = session.current.palette ∨
      action.palette.SpelledBy resolver) : Step resolver session ⟨action, session.committed⟩
  /-- The action in preparation is sealed. -/
  | commit (hrows : session.current.rows ≠ []) (hmode : session.current.mode ≠ none) :
      Step resolver session
        ⟨{ session.current with rows := [], mode := none }, session.committed ++ [session.current]⟩

variable {resolver : Resolver}

/-! ### Palettes -/

theorem Palette.spelledBy_extend {lines : List String} {entries : List PaletteEntry}
    (h : List.Forall₂ resolver.Assigns lines entries)
    (hd : (entries.map PaletteEntry.symbol).Nodup) :
    (Palette.extend ∅ entries).SpelledBy resolver := by
  refine ⟨fun symbol entry hs => ?_, fun symbol entry hs => ?_, fun symbol entry hs => ?_⟩
  all_goals obtain ⟨he, hsymbol⟩ := (getElem?_extend_eq_some_iff hd).mp hs
  · exact hsymbol
  · obtain ⟨line, _, hassigns⟩ := exists_left_of_forall₂ h he
    obtain ⟨colour, _, _, hraw⟩ := hassigns.parts
    rw [hraw, String.toList_ofList]
    exact Text.trimmed_trim colour
  · obtain ⟨line, _, hassigns⟩ := exists_left_of_forall₂ h he
    exact hassigns.resolved

theorem Palette.spelledBy_empty : (∅ : Palette).SpelledBy resolver :=
  Palette.spelledBy_extend .nil List.nodup_nil

theorem Palette.ReadUpToBadLine.spelledBy {lines : List String} {palette : Palette}
    (h : palette.ReadUpToBadLine resolver lines) : palette.SpelledBy resolver := by
  obtain ⟨_, _, _, entries, _, hgood, hdistinct, rfl, _⟩ := h
  exact Palette.spelledBy_extend hgood hdistinct

/-! ### Blocks -/

namespace Session

variable {session next : Session} {block : Block}

theorem step_of_grant {request : Request}
    (hpalette : ∀ palette, request = .palette palette → palette.SpelledBy resolver)
    (h : session.grant request = some next) : session.Step resolver next := by
  rcases cases_of_grant h with ⟨rfl, hrows, hmode, rfl⟩ | ⟨_, hsame, _, hcommitted⟩
  · exact .commit hrows hmode
  obtain ⟨current, committed⟩ := next
  cases hcommitted
  cases request with
  | palette palette => exact .edit current (.inr (hsame ▸ hpalette palette rfl))
  | _ => exact .edit current (.inl hsame)

theorem step_feedBy (session : Session) (block : Block) :
    session.Step resolver (session.feedBy resolver block).1 := by
  cases hf : session.feedBy resolver block with
  | mk after outcome =>
    cases outcome with
    | ok _ =>
      obtain ⟨request, ⟨hmode, hlines⟩, hgrant⟩ := feed_eq_ok_iff.mp hf
      refine step_of_grant ?_ hgrant
      rintro palette rfl
      obtain ⟨entries, hentries, hdistinct, rfl⟩ := hlines
      exact Palette.spelledBy_extend (Resolver.forall₂_assigns
        (fun _ hl _ hs => block.mem_spellings hmode hl hs) hentries) hdistinct
    | error fault =>
      have hleft := leftBy_of_feedBy hf
      rcases feed_eq_error hf with ⟨_, rfl⟩ | ⟨hk, palette, kind, _, rfl⟩
      · exact .edit _ (.inl rfl)
      · have hpalette := hleft.palette
        rw [if_pos hk] at hpalette
        exact .edit _ (.inr hpalette.spelledBy)

theorem soundBy_start : start.SoundBy resolver :=
  ⟨Palette.spelledBy_empty, nofun⟩

theorem SoundBy.step (h : session.SoundBy resolver) (hs : session.Step resolver next) :
    next.SoundBy resolver := by
  cases hs with
  | edit action hpalette =>
    refine ⟨?_, h.committed⟩
    rcases hpalette with hsame | hnew
    · exact hsame ▸ h.current
    · exact hnew
  | commit hrows hmode =>
    refine ⟨h.current, ?_⟩
    rw [List.forall_mem_append, List.forall_mem_singleton]
    exact ⟨h.committed, hrows, hmode, h.current⟩

theorem Step.keeps_committed (hs : session.Step resolver next) :
    session.committed <+: next.committed := by
  cases hs with
  | edit => exact List.prefix_rfl
  | commit => exact List.prefix_append _ _

theorem SoundBy.feedEach (h : session.SoundBy resolver) (blocks : List Block) :
    (session.feedEach resolver blocks).SoundBy resolver := by
  induction blocks generalizing session with
  | nil => exact h
  | cons block rest ih => exact ih (h.step (session.step_feedBy block))

theorem keeps_committed_feedEach (session : Session) (blocks : List Block) :
    session.committed <+: (session.feedEach resolver blocks).committed := by
  induction blocks generalizing session with
  | nil => exact List.prefix_rfl
  | cons block rest ih => exact (session.step_feedBy block).keeps_committed.trans (ih _)

/-- Blocks that are all accepted are fed one after the other. -/
theorem feedEach_of_feedAll {colours : ColourTable} {blocks : List Block}
    (h : session.feedAll colours blocks = .ok next) :
    session.feedEach colours.resolve blocks = next := by
  induction blocks generalizing session with
  | nil =>
    cases h
    rfl
  | cons block rest ih =>
    rw [feedAll] at h
    split at h
    · cases h
    next after hfeed =>
      rw [← feedBy_resolve] at hfeed
      rw [feedEach_cons hfeed]
      exact ih h

end Session

/-! ### Charts -/

theorem actionsOfBlocks_complete {colours : ColourTable} {blocks : List Block}
    {actions : List Action} (h : actionsOfBlocks colours blocks = .ok actions) :
    ∀ action ∈ actions, action.CompleteBy colours.resolve := by
  obtain ⟨session, hfeed, hfinish⟩ := bind_eq_ok_iff.mp h
  rw [Session.finish] at hfinish
  split at hfinish
  · cases hfinish
  · cases hfinish
    rw [← Session.feedEach_of_feedAll hfeed]
    exact (Session.soundBy_start.feedEach blocks).committed

theorem parseActions_complete {context : ChartContext} {source : String} {actions : List Action}
    (h : parseActions context source = .ok actions) :
    ∀ action ∈ actions, action.CompleteBy context.colours.resolve := by
  obtain ⟨_, _, _, hactions, _⟩ := parseActions_eq_ok_iff.mp h
  exact actionsOfBlocks_complete hactions

/-- Whatever has been painted, an action with a mode is not given up for want of one. -/
theorem Builder.add_ne_invalidStitchMode (builder : Builder) {action : Action}
    (h : action.mode ≠ none) (trace : List String) :
    (builder.add action).2 ≠ .error (.chart .invalidStitchMode trace) := by
  rw [outcome_add]
  cases hflaw : action.flaw? with
  | none => nofun
  | some fault =>
    obtain ⟨_, hfault⟩ := Action.flaw?_eq_some_iff.mp hflaw
    rw [hfault, if_neg h]
    nofun

/-- Actions with modes are given up for an unknown symbol or because nothing lies in the chart. -/
theorem fault_of_modes {actions : List Action} (h : ∀ action ∈ actions, action.mode ≠ none)
    {fault : Fault} (hf : patternOfActions actions = .error fault) :
    (∃ action ∈ actions, fault = .chart .symbolUnknown action.rows) ∨
      fault = .bare .invalidSize := by
  rcases patternOfActions_eq_error_iff.mp hf with hflaw | ⟨_, _, hsize⟩
  · obtain ⟨before, action, after, rfl, _, _, hfault⟩ := hflaw
    have ha : action ∈ before ++ action :: after := by simp
    rw [if_neg (h action ha)] at hfault
    exact .inl ⟨action, ha, hfault⟩
  · exact .inr hsize

/-- Every action that is committed is complete, whatever else is fed and refused, and no action
that was committed is lost. So no chart comes to an action without a mode. If its actions are
committed, nothing but an unknown symbol or the size can be a reason to give it up. -/
theorem committed_actions_complete :
    (∀ (resolver : Resolver) (blocks : List Block),
      ∀ action ∈ (Session.start.feedEach resolver blocks).committed,
        action.CompleteBy resolver) ∧
    (∀ (resolver : Resolver) (session : Session) (blocks : List Block),
      session.committed <+: (session.feedEach resolver blocks).committed) ∧
    ∀ context source actions, parseActions context source = .ok actions →
      (∀ action ∈ actions, action.CompleteBy context.colours.resolve ∧
        ∀ (builder : Builder) (trace : List String),
          (builder.add action).2 ≠ .error (.chart .invalidStitchMode trace)) ∧
      ∀ fault, parsePattern context source = .error fault →
        (∃ action ∈ actions, fault = .chart .symbolUnknown action.rows) ∨
          fault = .bare .invalidSize := by
  refine ⟨fun resolver blocks => ?_, fun _ => Session.keeps_committed_feedEach, ?_⟩
  · exact (Session.soundBy_start.feedEach blocks).committed
  · intro context source actions h
    have hcomplete := parseActions_complete h
    refine ⟨fun action ha => ⟨hcomplete action ha, fun builder trace => ?_⟩, fun fault hf => ?_⟩
    · exact builder.add_ne_invalidStitchMode (hcomplete action ha).mode trace
    · rw [parsePattern_eq_bind, h] at hf
      exact fault_of_modes (fun action ha => (hcomplete action ha).mode) hf

theorem isLongLine_otherPalette : ["b => dark red"] ≠ [] ∧
    ∀ line ∈ ["b => dark red"], IsLongLine line := by decide

/-- A palette, and a drawing with another symbol than it has. -/
def misdrawnCross : List WrittenBlock :=
  BlockKind.palette.write ["b => dark red"] isLongLine_otherPalette :: drawnCross

/-- The action is committed with its palette, which is complete, and given up for the symbol. -/
theorem misdrawnCross_complete :
    let colours := ColourTable.empty.insert "dark red" "#800000"
    ∃ actions action, parseActions (.alone colours) (writtenText misdrawnCross) = .ok actions ∧
      actions = [action] ∧ action.CompleteBy colours.resolve ∧
      action.palette['b']? = some ⟨'b', "dark red", "#800000"⟩ ∧
      parsePattern (.alone colours) (writtenText misdrawnCross) =
        .error (.chart .symbolUnknown action.rows) := by
  intro colours
  have hmap : (actionsOfBlocks colours (misdrawnCross.map WrittenBlock.block)).map
      (fun actions => actions.map fun action => action.palette['b']?) =
        .ok [some ⟨'b', "dark red", "#800000"⟩] := by decide +kernel
  have hfault : (patternOfBlocks colours (misdrawnCross.map WrittenBlock.block)).map Pattern.size =
      .error (.chart .symbolUnknown ["a"]) := by decide +kernel
  obtain ⟨actions, hactions, hpalettes⟩ := map_eq_ok_iff.mp hmap
  obtain ⟨action, rfl, hpalette⟩ := List.map_eq_singleton_iff.mp hpalettes
  have hparse : parseActions (.alone colours) (writtenText misdrawnCross) = .ok [action] :=
    parseActions_eq_ok_iff.mpr ⟨_, readAll_writtenText _ _, nofun, hactions, nofun⟩
  have hpattern : parsePattern (.alone colours) (writtenText misdrawnCross) =
      .error (.chart .symbolUnknown ["a"]) := by
    rw [patternOfBlocks, hactions] at hfault
    rw [parsePattern_eq_bind, hparse]
    exact map_eq_error_iff.mp hfault
  obtain ⟨hcomplete, hreasons⟩ := committed_actions_complete.2.2 _ _ _ hparse
  have haction : action ∈ [action] := List.mem_singleton_self action
  refine ⟨[action], action, hparse, rfl, (hcomplete action haction).1, hpalette, ?_⟩
  rcases hreasons _ hpattern with ⟨other, hother, hrows⟩ | hsize
  · obtain rfl := List.mem_singleton.mp hother
    rw [← hrows]
    exact hpattern
  · cases hsize

end CrossStitch
