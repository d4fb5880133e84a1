import CrossStitch.Proofs.Block.Run

/-! What a fault is traced to. The lines of a source without include blocks are those of the
blocks that can be read, and then the lines that the fault is traced to: as they stand, from the
line after the last block on and up to the line at fault. What comes after that line makes no
difference to the reading. Only an open block is a fault of all lines there are. -/

namespace CrossStitch

/-- None of the blocks that the lines begin with is an include block. -/
def WithoutIncludes (depth : Nat) (lines : List SourceLine) : Prop :=
  ∀ used rest blocks, lines = used ++ rest → BlocksReadFrom depth blocks used →
    ∀ block ∈ blocks, block.mode ≠ includeMode

variable {lines rest : List SourceLine} {block : Block} {depth : Nat} {kind : ChartFault}

/-! ### Lines without include blocks -/

theorem withoutIncludes_iff_of_found (h : scan lines = .found block depth rest) :
    WithoutIncludes depth lines ↔ block.mode ≠ includeMode ∧ WithoutIncludes depth rest := by
  obtain ⟨used, rfl, hread⟩ := scan_eq_found_iff.mp h
  constructor
  · intro hplain
    constructor
    · exact hplain used rest [block] rfl (.single hread) block List.mem_cons_self
    · intro later after blocks hrest hblocks other hother
      exact hplain (used ++ later) after (block :: blocks) (by rw [hrest, List.append_assoc])
        (.cons hread hblocks) other (List.mem_cons_of_mem block hother)
  · rintro ⟨hmode, hplain⟩ front after blocks hlines hblocks
    cases hblocks with
    | nil => nofun
    | @cons first later firstLines laterLines hfirst hlater =>
      -- the first block is the one that is found
      have hsame := hfirst.scan_append (laterLines ++ after)
      rw [← List.append_assoc, ← hlines, h] at hsame
      cases hsame
      exact List.forall_mem_cons.mpr ⟨hmode, hplain laterLines after later rfl hlater⟩

theorem withoutIncludes_of_not_found (h : ∀ block depth rest, scan lines ≠ .found block depth rest)
    (depth : Nat) : WithoutIncludes depth lines := by
  intro used rest blocks hlines hblocks
  cases hblocks with
  | nil => nofun
  | @cons first later firstLines laterLines hfirst hlater =>
    have hfound := hfirst.scan_append (laterLines ++ rest)
    rw [← List.append_assoc, ← hlines] at hfound
    exact absurd hfound (h _ _ _)

/-! ### Faults and their lines -/

/-- The depth of a block is that of one of its lines. -/
theorem Block.ReadFrom.exists_depth (h : block.ReadFrom lines depth) :
    ∃ line ∈ lines, line.depth = depth := by
  obtain ⟨_, hlines, _⟩ := h
  cases hlines with
  | short => exact ⟨_, by simp, rfl⟩
  | long => exact ⟨_, by simp, rfl⟩

/-- Where the lines are at fault, and what has been read up to there. -/
theorem readBlocks_eq_fault (includes : Includes) (lines : List SourceLine) :
    (∀ line ∈ lines, line.depth = depth) → WithoutIncludes depth lines →
    ∀ {blocks : List Block} {fault : Fault}, readBlocks includes lines = (blocks, some fault) →
    ∃ used trace after kind, lines = used ++ (trace ++ after) ∧ BlocksReadFrom depth blocks used ∧
      fault = .chart kind (rawLines trace) ∧
      (kind = .unclosedBlock 1 ∧ LeavesOpen trace ∧ after = [] ∨ FaultyLines trace kind) := by
  induction lines using reading_induction includes with
  | step lines found expanded =>
    intro hdepth hplain blocks fault h
    cases hs : scan lines with
    | exhausted =>
      rw [readBlocks_of_exhausted hs] at h
      cases h
    | broken kind trace =>
      rw [readBlocks_of_broken hs] at h
      cases h
      rcases scan_eq_broken_iff.mp hs with ⟨used, rest, rfl, hfaulty, rfl⟩ | ⟨hopen, rfl, rfl⟩
      · exact ⟨[], used, rest, kind, rfl, .nil, rfl, .inr hfaulty⟩
      · exact ⟨[], lines, [], _, by simp, .nil, rfl, .inl ⟨rfl, hopen, rfl⟩⟩
    | found block d rest =>
      obtain ⟨used, rfl, hread⟩ := scan_eq_found_iff.mp hs
      obtain ⟨hfirst, hrest⟩ := List.forall_mem_append.mp hdepth
      obtain ⟨line, hline, rfl⟩ := hread.exists_depth
      rw [hfirst line hline] at hs hread
      obtain ⟨hmode, hlater⟩ := (withoutIncludes_iff_of_found hs).mp hplain
      rw [readBlocks_of_found hs hmode] at h
      cases hb : readBlocks includes rest with
      | mk later fault? =>
        rw [hb] at h
        cases h
        obtain ⟨front, trace, after, kind, rfl, hblocks, hfault, hkind⟩ :=
          found block _ rest hs hmode hrest hlater hb
        exact ⟨used ++ front, trace, after, kind, by simp, .cons hread hblocks, hfault, hkind⟩

/-- The blocks are read from any lines that begin as these do, and then the fault is found. -/
theorem BlocksReadFrom.readBlocks_faulty {blocks : List Block} {trace : List SourceLine}
    (h : BlocksReadFrom depth blocks lines) (hplain : ∀ block ∈ blocks, block.mode ≠ includeMode)
    (hfaulty : FaultyLines trace kind) (includes : Includes) (more : List SourceLine) :
    readBlocks includes (lines ++ (trace ++ more)) =
      (blocks, some (.chart kind (rawLines trace))) := by
  rw [(h.runs hplain includes _).readBlocks_eq, readBlocks_of_broken (hfaulty.scan_append more),
    List.append_nil]

/-- Faults are traced to the right lines. If a source without include blocks is at fault, its lines
are those of the blocks read before and then those of the trace, up to the line at fault, or to the
last line if a block is never closed. In the first case every source that begins with these lines
has the same blocks and the same fault with the same trace. -/
theorem fault_traced_to_its_lines {includes : Includes} {source : String} {blocks : List Block}
    {fault : Fault} (hplain : WithoutIncludes 0 (sourceLines 0 source))
    (h : readBlocks includes (sourceLines 0 source) = (blocks, some fault)) :
    ∃ used trace after kind, Text.lines source = used ++ (trace ++ after) ∧
      BlocksReadFrom 0 blocks (linesAt 0 used) ∧ fault = .chart kind trace ∧
      (kind = .unclosedBlock 1 ∧ LeavesOpen (linesAt 0 trace) ∧ after = [] ∨
        kind ∈ lineFaults ∧ FaultyLines (linesAt 0 trace) kind ∧
        ∀ other, used ++ trace <+: Text.lines other →
          readBlocks includes (sourceLines 0 other) = (blocks, some fault)) := by
  rw [sourceLines_eq_linesAt] at hplain h
  obtain ⟨_, _, _, kind, hlines, hblocks, hfault, hkind⟩ :=
    readBlocks_eq_fault includes _ depth_of_mem_linesAt hplain h
  have hmodes := hplain _ _ blocks hlines hblocks
  obtain ⟨used, rest, hsource, rfl, hrest⟩ := linesAt_eq_append hlines
  obtain ⟨trace, after, rfl, rfl, rfl⟩ := linesAt_eq_append hrest.symm
  rw [rawLines_linesAt] at hfault
  refine ⟨used, trace, after, kind, hsource, hblocks, hfault, ?_⟩
  rcases hkind with ⟨hunclosed, hopen, hafter⟩ | hfaulty
  · exact .inl ⟨hunclosed, hopen, List.map_eq_nil_iff.mp hafter⟩
  refine .inr ⟨hfaulty.kind_mem, hfaulty, fun other ⟨more, hother⟩ => ?_⟩
  rw [sourceLines_eq_linesAt, ← hother, linesAt_append, linesAt_append, List.append_assoc, hfault,
    hblocks.readBlocks_faulty hmodes hfaulty, rawLines_linesAt]

/-- A blank line belongs to the trace, and an include block behind the line at fault does not
matter. -/
theorem fault_traced_with_blank_line :
    let source := "# top\na => \x7bx\x7d\r\n\n  bad line  \ninclude => \x7bf\x7d\n"
    let reading := ([⟨"a", ["x"]⟩], some (.chart .expectedStartOfBlock ["", "  bad line  "]))
    WithoutIncludes 0 (sourceLines 0 source) ∧
    readBlocks modeIncludes (sourceLines 0 source) = reading ∧
    ∃ used, used ++ ["", "  bad line  "] <+: Text.lines source ∧
      BlocksReadFrom 0 [⟨"a", ["x"]⟩] (linesAt 0 used) ∧
      ∀ other, used ++ ["", "  bad line  "] <+: Text.lines other →
        readBlocks modeIncludes (sourceLines 0 other) = reading := by
  intro source reading
  have ha : scan (sourceLines 0 source) =
      .found ⟨"a", ["x"]⟩ 0 (linesAt 0 ["", "  bad line  ", "include => \x7bf\x7d"]) := by decide
  have hbad : scan (linesAt 0 ["", "  bad line  ", "include => \x7bf\x7d"]) =
      .broken .expectedStartOfBlock ["", "  bad line  "] := by decide
  have hplain : WithoutIncludes 0 (sourceLines 0 source) := by
    refine (withoutIncludes_iff_of_found ha).mpr ⟨by decide, ?_⟩
    exact withoutIncludes_of_not_found (by rw [hbad]; nofun) 0
  have hread : readBlocks modeIncludes (sourceLines 0 source) = reading := by
    rw [readBlocks_of_found ha (by decide), readBlocks_of_broken hbad]
  obtain ⟨used, trace, after, kind, hlines, hblocks, hfault, hkind⟩ :=
    fault_traced_to_its_lines hplain hread
  cases hfault
  rcases hkind with ⟨hunclosed, _⟩ | ⟨_, _, hother⟩
  · cases hunclosed
  · exact ⟨hplain, hread, used, ⟨after, by rw [hlines, List.append_assoc]⟩, hblocks, hother⟩

end CrossStitch
