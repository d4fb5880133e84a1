import CrossStitch.Proofs.Action.Request
import Mathlib.Data.List.Induction

/-! The actions that a list of blocks commits. The requests of the blocks are cut after
each commit. A drawing and a mode belong to the segment they are asked for in, while a
palette and an offset hold until they are replaced. So the session is a function of
the segments, and each request adds to the last of them. -/

namespace CrossStitch

/-! ### Segments -/

/-- Requests cut after each commit. -/
structure Segments where
  /-- The segments that end in a commit. -/
  closed : List (List Request)
  /-- The requests after the last commit. -/
  pending : List Request

namespace Segments

def push (segments : Segments) : Request → Segments
  | .commit => ⟨segments.closed ++ [segments.pending ++ [.commit]], []⟩
  | request => { segments with pending := segments.pending ++ [request] }

def cut (requests : List Request) : Segments :=
  requests.foldl push ⟨[], []⟩

theorem cut_concat (requests : List Request) (request : Request) :
    cut (requests ++ [request]) = (cut requests).push request := by
  simp [cut, List.foldl_append]

/-- Cutting loses nothing. -/
theorem flatten_cut (requests : List Request) :
    (cut requests).closed.flatten ++ (cut requests).pending = requests := by
  induction requests using List.reverseRecOn with
  | nil => rfl
  | append_singleton requests request ih =>
    rw [cut_concat]
    conv_rhs => rw [← ih]
    cases request <;> simp [push]

/-- The requests are cut at commits and nowhere else. -/
theorem commit_mem_cut (requests : List Request) :
    (∀ segment ∈ (cut requests).closed, ∃ body, segment = body ++ [.commit] ∧ .commit ∉ body) ∧
      .commit ∉ (cut requests).pending := by
  induction requests using List.reverseRecOn with
  | nil => exact ⟨nofun, nofun⟩
  | append_singleton requests request ih =>
    obtain ⟨hc, hp⟩ := ih
    rw [cut_concat]
    cases request with
    | commit =>
      refine ⟨fun segment hs => ?_, nofun⟩
      rcases List.mem_append.mp hs with hs | hs
      · exact hc segment hs
      · exact ⟨_, List.mem_singleton.mp hs, hp⟩
    | _ => exact ⟨hc, by simpa [push] using hp⟩

end Segments

/-! ### What a segment asks for -/

namespace Request

def palette? : Request → Option Palette
  | .palette p => some p
  | _ => none

def rows? : Request → Option (List String)
  | .pattern rows => some rows
  | _ => none

def mode? : Request → Option StitchMode
  | .mode m => some m
  | _ => none

def offset? : Request → Option Offset
  | .offset o => some o
  | _ => none

end Request

def drawings (requests : List Request) : List (List String) :=
  requests.filterMap Request.rows?

def modes (requests : List Request) : List StitchMode :=
  requests.filterMap Request.mode?

def lastPalette (requests : List Request) : Palette :=
  (requests.filterMap Request.palette?).getLast?.getD ∅

def lastOffset (requests : List Request) : Offset :=
  (requests.filterMap Request.offset?).getLast?.getD ⟨0, 0⟩

/-- The action that a segment prepares, given the requests before the segment. -/
def actionOf (before segment : List Request) : Action where
  palette := lastPalette (before ++ segment)
  mode := (modes segment).getLast?
  rows := (drawings segment).getLast?.getD []
  offset := lastOffset (before ++ segment)

/-- One action for each segment, given the requests before the segments. -/
def actionsOf (before : List Request) : List (List Request) → List Action
  | [] => []
  | segment :: rest => actionOf before segment :: actionsOf (before ++ segment) rest

/-- All requests for a mode are for the same one. -/
def OneMode (segment : List Request) : Prop :=
  ∀ m ∈ modes segment, ∀ m' ∈ modes segment, m = m'

instance (segment : List Request) : Decidable (OneMode segment) :=
  inferInstanceAs (Decidable (∀ m ∈ modes segment, ∀ m' ∈ modes segment, m = m'))

/-- What a segment that ends in a commit must be. -/
structure Complete (segment : List Request) : Prop where
  drawing : (drawings segment).length = 1
  mode : modes segment ≠ []
  oneMode : OneMode segment

/-- What the segment after the last commit must be while requests still come. -/
structure Begun (segment : List Request) : Prop where
  drawing : (drawings segment).length ≤ 1
  oneMode : OneMode segment

namespace Segments

/-- The requests can be granted in order. -/
structure Grantable (segments : Segments) : Prop where
  closed : ∀ segment ∈ segments.closed, Complete segment
  pending : Begun segments.pending

/-- The requests can be granted in order and leave no drawing behind. -/
structure Final (segments : Segments) : Prop where
  closed : ∀ segment ∈ segments.closed, Complete segment
  drawing : drawings segments.pending = []
  oneMode : OneMode segments.pending

/-- The session that the requests lead to. -/
def session (segments : Segments) : Session where
  current := actionOf segments.closed.flatten segments.pending
  committed := actionsOf [] segments.closed

end Segments

/-! ### One more request -/

theorem getLast?_filterMap_concat {α β : Type} (f : α → Option β) (xs : List α) (x : α) :
    ((xs ++ [x]).filterMap f).getLast? = (f x).or (xs.filterMap f).getLast? := by
  cases hf : f x <;> simp [List.filterMap_append, hf]

theorem actionOf_concat (before segment : List Request) (request : Request) :
    actionOf before (segment ++ [request]) =
      { palette := request.palette?.getD (actionOf before segment).palette
        mode := request.mode?.or (actionOf before segment).mode
        rows := request.rows?.getD (actionOf before segment).rows
        offset := request.offset?.getD (actionOf before segment).offset } := by
  simp only [actionOf, lastPalette, lastOffset, modes, drawings, ← List.append_assoc,
    getLast?_filterMap_concat]
  cases request <;> rfl

/-- A new segment starts with what holds until it is replaced. -/
theorem actionOf_append_nil (before segment : List Request) :
    actionOf (before ++ segment) [] =
      { actionOf before segment with rows := [], mode := none } := by
  simp [actionOf, drawings, modes]

theorem actionsOf_concat (before : List Request) (segments : List (List Request))
    (segment : List Request) :
    actionsOf before (segments ++ [segment]) =
      actionsOf before segments ++ [actionOf (before ++ segments.flatten) segment] := by
  induction segments generalizing before with
  | nil => simp [actionsOf]
  | cons first segments ih => simp [actionsOf, ih]

theorem drawings_concat (segment : List Request) (request : Request) :
    drawings (segment ++ [request]) = drawings segment ++ request.rows?.toList := by
  cases h : request.rows? <;> simp [drawings, h]

theorem modes_concat (segment : List Request) (request : Request) :
    modes (segment ++ [request]) = modes segment ++ request.mode?.toList := by
  cases h : request.mode? <;> simp [modes, h]

/-- As long as one mode was asked for, the last request for a mode stands for all. -/
theorem oneMode_concat_mode {segment : List Request} {m : StitchMode} (h : OneMode segment) :
    OneMode (segment ++ [.mode m]) ↔ (modes segment).getLast?.any (· != m) = false := by
  have hall : OneMode (segment ++ [.mode m]) ↔ ∀ m' ∈ modes segment, m' = m := by
    unfold OneMode
    rw [modes_concat]
    constructor
    · intro ho m' hm'
      exact ho m' (by simp [hm']) m (by simp [Request.mode?])
    · intro ho a ha b hb
      have hm : ∀ c ∈ modes segment ++ Option.toList (Request.mode? (.mode m)), c = m := by
        simpa [Request.mode?, or_imp, forall_and] using ho
      rw [hm a ha, hm b hb]
  rw [hall]
  cases hl : (modes segment).getLast? with
  | none => simp [List.getLast?_eq_none_iff.mp hl]
  | some m' =>
    have hm' := List.mem_of_getLast? hl
    constructor
    · intro ho
      simp [ho m' hm']
    · intro ho c hc
      rw [h c hc m' hm']
      simpa using ho

theorem hasPattern_actionOf {before segment : List Request}
    (hd : ∀ rows ∈ drawings segment, rows ≠ []) :
    (actionOf before segment).hasPattern = true ↔ drawings segment ≠ [] := by
  unfold Action.hasPattern actionOf
  cases hl : (drawings segment).getLast? with
  | none => simp [List.getLast?_eq_none_iff.mp hl]
  | some rows =>
    have hne := hd rows (List.mem_of_getLast? hl)
    have : drawings segment ≠ [] := List.ne_nil_of_mem (List.mem_of_getLast? hl)
    simp [this, hne]

/-- A segment may be ended once it has a drawing and a mode. -/
theorem complete_concat_commit {segment : List Request} (h : Begun segment) :
    Complete (segment ++ [.commit]) ↔ drawings segment ≠ [] ∧ modes segment ≠ [] := by
  have hd : drawings (segment ++ [.commit]) = drawings segment := by
    simp [drawings_concat, Request.rows?]
  have hm : modes (segment ++ [.commit]) = modes segment := by
    simp [modes_concat, Request.mode?]
  constructor
  · rintro ⟨hdrawing, hmode, _⟩
    rw [hd] at hdrawing
    rw [hm] at hmode
    exact ⟨List.ne_nil_of_length_eq_add_one hdrawing, hmode⟩
  · rintro ⟨hdrawing, hmode⟩
    have hpos := List.length_pos_iff.mpr hdrawing
    have hone := h.drawing
    exact ⟨by rw [hd]; omega, by rwa [hm], by unfold OneMode; rw [hm]; exact h.oneMode⟩

namespace Segments

theorem Grantable.of_push {segments : Segments} {request : Request}
    (h : (segments.push request).Grantable) : segments.Grantable := by
  obtain ⟨hc, hp, hm⟩ := h
  cases request with
  | commit =>
    have hlast : Complete (segments.pending ++ [.commit]) := hc _ (by simp [push])
    refine ⟨fun segment hs => hc segment (by simp [push, hs]), ?_, ?_⟩
    · have := hlast.drawing
      simp [drawings_concat, Request.rows?] at this
      omega
    · have := hlast.oneMode
      simpa [OneMode, modes_concat, Request.mode?] using this
  | _ =>
    refine ⟨hc, ?_, fun m hm1 m' hm2 => hm m ?_ m' ?_⟩
    · simp [push, drawings_concat] at hp
      omega
    · simp [push, modes_concat, hm1]
    · simp [push, modes_concat, hm2]

theorem begun_concat {segment : List Request} (h : Begun segment) {request : Request}
    (hr : request.rows? = none) (hm : request.mode? = none) : Begun (segment ++ [request]) := by
  constructor
  · simpa [drawings_concat, hr] using h.drawing
  · simpa [OneMode, modes_concat, hm] using h.oneMode

/-- What the segments must be for one more request. -/
theorem grantable_push {segments : Segments} (h : segments.Grantable) (request : Request) :
    (segments.push request).Grantable ↔
      match request with
      | .palette _ | .offset _ => True
      | .pattern _ => drawings segments.pending = []
      | .mode m => (modes segments.pending).getLast?.any (· != m) = false
      | .commit => drawings segments.pending ≠ [] ∧ modes segments.pending ≠ [] := by
  obtain ⟨hclosed, hpending⟩ := h
  cases request with
  | palette p => exact iff_of_true ⟨hclosed, begun_concat hpending rfl rfl⟩ trivial
  | offset o => exact iff_of_true ⟨hclosed, begun_concat hpending rfl rfl⟩ trivial
  | pattern rows =>
    constructor
    · intro hg
      have := hg.pending.drawing
      simpa [push, drawings_concat, Request.rows?] using this
    · intro hnone
      refine ⟨hclosed, ?_, ?_⟩
      · simp [push, drawings_concat, Request.rows?, hnone]
      · simpa [push, OneMode, modes_concat, Request.mode?] using hpending.oneMode
  | mode m =>
    refine Iff.trans ?_ (oneMode_concat_mode hpending.oneMode)
    constructor
    · exact fun hg => hg.pending.oneMode
    · intro hone
      refine ⟨hclosed, ?_, hone⟩
      simpa [push, drawings_concat, Request.rows?] using hpending.drawing
  | commit =>
    refine Iff.trans ?_ (complete_concat_commit hpending)
    constructor
    · exact fun hg => hg.closed _ (by simp [push])
    · intro hlast
      refine ⟨fun segment hs => ?_, ⟨by simp [push, drawings], nofun⟩⟩
      rcases List.mem_append.mp hs with hs | hs
      · exact hclosed segment hs
      · exact List.mem_singleton.mp hs ▸ hlast

/-- The session grants a request exactly if the segments allow it, and then comes to
what the segments with the request lead to. -/
theorem grant_session {segments : Segments} (h : segments.Grantable)
    (hd : ∀ rows ∈ drawings segments.pending, rows ≠ []) {request : Request} {next : Session} :
    segments.session.grant request = some next ↔
      (segments.push request).Grantable ∧ (segments.push request).session = next := by
  rw [grantable_push h]
  obtain ⟨closed, pending⟩ := segments
  have hpattern := @hasPattern_actionOf closed.flatten pending hd
  cases request with
  | palette p =>
    simp [Session.grant, session, push, actionOf_concat, Request.palette?, Request.mode?,
      Request.rows?, Request.offset?]
  | offset o =>
    simp [Session.grant, session, push, actionOf_concat, Request.palette?, Request.mode?,
      Request.rows?, Request.offset?]
  | pattern rows =>
    by_cases hnone : drawings pending = []
    · have hfree := Bool.eq_false_iff.mpr (hpattern.not.mpr (not_not.mpr hnone))
      simp [hnone, Session.grant, session, hfree, push, actionOf_concat, Request.palette?,
        Request.mode?, Request.rows?, Request.offset?]
    · simp [hnone, Session.grant, session, hpattern.mpr hnone]
  | mode m =>
    have hmode : (actionOf closed.flatten pending).mode = (modes pending).getLast? := rfl
    cases hany : (modes pending).getLast?.any (· != m) with
    | true => simp [Session.grant, session, hmode, hany]
    | false =>
      simp [Session.grant, session, hmode, hany, push, actionOf_concat, Request.palette?,
        Request.mode?, Request.rows?, Request.offset?]
  | commit =>
    have hmode : (actionOf closed.flatten pending).mode.isSome = true ↔ modes pending ≠ [] := by
      simp [actionOf]
    have hlast : actionOf closed.flatten (pending ++ [.commit]) =
        actionOf closed.flatten pending := by
      rw [actionOf_concat]
      rfl
    rw [← hpattern, ← hmode, ← Bool.and_eq_true]
    simp [Session.grant, session, push, actionsOf_concat, actionOf_append_nil, hlast]

theorem mem_drawings_of_mem_pending {requests : List Request} {rows : List String}
    (h : rows ∈ drawings (cut requests).pending) : rows ∈ drawings requests := by
  rw [← flatten_cut requests, drawings, List.filterMap_append]
  exact List.mem_append_right _ h

/-- Granting requests from the start leads to the session of their segments. -/
theorem foldlM_grant_eq_some_iff {requests : List Request}
    (hd : ∀ rows ∈ drawings requests, rows ≠ []) {next : Session} :
    requests.foldlM Session.grant Session.start = some next ↔
      (cut requests).Grantable ∧ (cut requests).session = next := by
  induction requests using List.reverseRecOn generalizing next with
  | nil =>
    have hg : (cut []).Grantable := ⟨nofun, Nat.zero_le 1, nofun⟩
    have hs : (cut []).session = Session.start := rfl
    simp [hg, hs, pure]
  | append_singleton requests request ih =>
    rw [drawings_concat] at hd
    have hinit : ∀ rows ∈ drawings requests, rows ≠ [] :=
      fun rows hr => hd rows (List.mem_append_left _ hr)
    have hpending : ∀ rows ∈ drawings (cut requests).pending, rows ≠ [] :=
      fun rows hr => hinit rows (mem_drawings_of_mem_pending hr)
    have hstep : (requests ++ [request]).foldlM Session.grant Session.start = some next ↔
        ∃ session, requests.foldlM Session.grant Session.start = some session ∧
          session.grant request = some next := by
      simp [List.foldlM_append, Option.bind_eq_some_iff]
    rw [hstep, cut_concat]
    constructor
    · rintro ⟨session, hrun, hgrant⟩
      obtain ⟨hg, rfl⟩ := (ih hinit).mp hrun
      exact (grant_session hg hpending).mp hgrant
    · rintro ⟨hg, rfl⟩
      have hg' := hg.of_push
      exact ⟨_, (ih hinit).mpr ⟨hg', rfl⟩, (grant_session hg' hpending).mpr ⟨hg, rfl⟩⟩

theorem final_iff {segments : Segments} :
    segments.Final ↔ segments.Grantable ∧ drawings segments.pending = [] := by
  constructor
  · rintro ⟨hclosed, hnone, hone⟩
    exact ⟨⟨hclosed, by simp [hnone], hone⟩, hnone⟩
  · rintro ⟨⟨hclosed, _, hone⟩, hnone⟩
    exact ⟨hclosed, hnone, hone⟩

end Segments

/-! ### The actions of a list of blocks -/

theorem finish_eq_ok_iff {session : Session} {actions : List Action} :
    session.finish = .ok actions ↔
      session.current.hasPattern = false ∧ actions = session.committed := by
  unfold Session.finish
  cases session.current.hasPattern <;> simp [eq_comm]

theorem ne_nil_of_mem_drawings {colours : ColourTable} {blocks : List Block}
    {requests : List Request} (h : List.Forall₂ (Block.Asks colours) blocks requests)
    (hlines : ∀ block ∈ blocks, block.lines ≠ []) : ∀ rows ∈ drawings requests, rows ≠ [] := by
  induction h with
  | nil => exact nofun
  | @cons block request blocks requests hasks _ ih =>
    have hrest := ih fun block hb => hlines block (List.mem_cons_of_mem _ hb)
    have hfirst := hlines block List.mem_cons_self
    intro rows hr
    rw [drawings, List.filterMap_cons] at hr
    cases request with
    | pattern rows' =>
      rcases List.mem_cons.mp hr with rfl | hr
      · exact hasks.2 ▸ hfirst
      · exact hrest rows hr
    | _ => exact hrest rows hr

/-- Blocks commit actions exactly if each has a meaning of its own and, cut after each
commit, every segment has one drawing and one mode and no drawing is left at the end.
The actions then are those of the segments. -/
theorem actionsOfBlocks_eq_ok_iff (colours : ColourTable) (blocks : List Block)
    (hlines : ∀ block ∈ blocks, block.lines ≠ []) (actions : List Action) :
    actionsOfBlocks colours blocks = .ok actions ↔
      ∃ requests, List.Forall₂ (Block.Asks colours) blocks requests ∧
        (Segments.cut requests).Final ∧ actions = actionsOf [] (Segments.cut requests).closed := by
  have hrun : ∀ requests next, List.Forall₂ (Block.Asks colours) blocks requests →
      (requests.foldlM Session.grant Session.start = some next ↔
        (Segments.cut requests).Grantable ∧ (Segments.cut requests).session = next) :=
    fun requests next h => Segments.foldlM_grant_eq_some_iff (ne_nil_of_mem_drawings h hlines)
  have hpattern : ∀ requests, List.Forall₂ (Block.Asks colours) blocks requests →
      ((Segments.cut requests).session.current.hasPattern = false ↔
        drawings (Segments.cut requests).pending = []) := by
    intro requests h
    rw [← Bool.not_eq_true, Segments.session, hasPattern_actionOf, not_not]
    exact fun rows hr =>
      ne_nil_of_mem_drawings h hlines rows (Segments.mem_drawings_of_mem_pending hr)
  rw [actionsOfBlocks, bind_eq_ok_iff]
  constructor
  · rintro ⟨session, hfeed, hfinish⟩
    obtain ⟨requests, hasks, hgrants⟩ := feedAll_eq_ok_iff.mp hfeed
    obtain ⟨hg, rfl⟩ := (hrun requests session hasks).mp hgrants
    obtain ⟨hnone, rfl⟩ := finish_eq_ok_iff.mp hfinish
    exact ⟨requests, hasks, Segments.final_iff.mpr ⟨hg, (hpattern requests hasks).mp hnone⟩, rfl⟩
  · rintro ⟨requests, hasks, hfinal, rfl⟩
    obtain ⟨hg, hnone⟩ := Segments.final_iff.mp hfinal
    refine ⟨(Segments.cut requests).session, ?_, ?_⟩
    · exact feedAll_eq_ok_iff.mpr ⟨requests, hasks, (hrun requests _ hasks).mpr ⟨hg, rfl⟩⟩
    · exact finish_eq_ok_iff.mpr ⟨(hpattern requests hasks).mpr hnone, rfl⟩

/-- Two commits, of which the second keeps the palette and the offset of the first. -/
def twoCommits : List Block :=
  [⟨"palette", ["# => red"]⟩, ⟨"offset", ["2x-1"]⟩, ⟨"mode", ["xstitch"]⟩, ⟨"pattern", ["#", "##"]⟩,
    ⟨"action", ["commit"]⟩, ⟨"pattern", ["#"]⟩, ⟨"mode", ["hline"]⟩, ⟨"mode", ["hline"]⟩,
    ⟨"action", ["commit"]⟩, ⟨"offset", [" 0 x 0"]⟩]

theorem actionsOfBlocks_twoCommits :
    (∀ block ∈ twoCommits, block.lines ≠ []) ∧
      actionsOfBlocks ColourTable.empty twoCommits =
        .ok [⟨Palette.extend ∅ [⟨'#', "red", "red"⟩], some .crossStitch, ["#", "##"], ⟨2, -1⟩⟩,
          ⟨Palette.extend ∅ [⟨'#', "red", "red"⟩], some .horizontalLine, ["#"], ⟨2, -1⟩⟩] := by
  have hlines : ∀ block ∈ twoCommits, block.lines ≠ [] := by decide
  have hred : IsAssignment ColourTable.empty "# => red" ⟨'#', "red", "red"⟩ := by
    refine ⟨⟨"red".toList, rfl, by decide, by decide⟩, ?_⟩
    simp [ColourTable.resolveOrLiteral, ColourTable.resolve, ColourTable.empty, noColour]
  have hmoved : IsOffset "2x-1" ⟨2, -1⟩ :=
    ⟨['2'], ['-', '1'], rfl, by decide, by decide, Text.readInt32_eq_ok_iff.mp (by decide),
      Text.readInt32_eq_ok_iff.mp (by decide)⟩
  have hback : IsOffset " 0 x 0" ⟨0, 0⟩ :=
    ⟨" 0 ".toList, " 0".toList, rfl, by decide, by decide, Text.readInt32_eq_ok_iff.mp (by decide),
      Text.readInt32_eq_ok_iff.mp (by decide)⟩
  have hasks : List.Forall₂ (Block.Asks ColourTable.empty) twoCommits
      [.palette (Palette.extend ∅ [⟨'#', "red", "red"⟩]), .offset ⟨2, -1⟩, .mode .crossStitch,
        .pattern ["#", "##"], .commit, .pattern ["#"], .mode .horizontalLine,
        .mode .horizontalLine, .commit, .offset ⟨0, 0⟩] := by
    refine .cons ⟨rfl, _, .cons hred .nil, by simp, rfl⟩ ?_
    refine .cons ⟨rfl, _, rfl, hmoved⟩ ?_
    refine .cons ⟨rfl, rfl⟩ (.cons ⟨rfl, rfl⟩ (.cons ⟨rfl, rfl⟩ ?_))
    refine .cons ⟨rfl, rfl⟩ (.cons ⟨rfl, rfl⟩ (.cons ⟨rfl, rfl⟩ (.cons ⟨rfl, rfl⟩ ?_)))
    exact .cons ⟨rfl, _, rfl, hback⟩ .nil
  refine ⟨hlines, (actionsOfBlocks_eq_ok_iff ColourTable.empty twoCommits hlines _).mpr
    ⟨_, hasks, ⟨?_, rfl, nofun⟩, rfl⟩⟩
  rintro segment (_ | ⟨_, _ | ⟨_, ⟨⟩⟩⟩)
  · exact ⟨rfl, nofun, by decide⟩
  · exact ⟨rfl, nofun, by decide⟩

end CrossStitch
