import CrossStitch.Proofs.Block.Grammar
import CrossStitch.Proofs.Block.Passes
import CrossStitch.Proofs.Block.Pasting

/-! Runs of the reader. A run leads from one buffer to another by passes that hand out blocks and
follow include blocks, and none of which ends the reading. One run can go on where another has
stopped. The blocks that a run hands out are those that are read first, and what is read after
them is what is read from the buffer that it leaves. -/

namespace CrossStitch

namespace Includes

variable (includes : Includes)

theorem passes_add (m n : Nat) (buffer : List SourceLine) :
    includes.passes (m + n) buffer =
      includes.passes m buffer ++ includes.passes n (includes.bufferAfter m buffer) := by
  induction m generalizing buffer with
  | zero => rw [Nat.zero_add, passes, bufferAfter, List.nil_append]
  | succ m ih => rw [Nat.succ_add, passes, passes, bufferAfter, ih, List.cons_append]

theorem bufferAfter_add (m n : Nat) (buffer : List SourceLine) :
    includes.bufferAfter (m + n) buffer =
      includes.bufferAfter n (includes.bufferAfter m buffer) := by
  induction m generalizing buffer with
  | zero => rw [Nat.zero_add, bufferAfter]
  | succ m ih => rw [Nat.succ_add, bufferAfter, bufferAfter, ih]

/-- Passes lead from the first buffer to the last. They hand out the blocks, follow so many
include blocks, and leave the reading open. -/
def Runs (buffer : List SourceLine) (blocks : List Block) (followed : Nat)
    (left : List SourceLine) : Prop :=
  ∃ n, includes.bufferAfter n buffer = left ∧
    (∀ pass ∈ includes.passes n buffer, pass.ending? = none) ∧
    (includes.passes n buffer).filterMap Pass.block? = blocks ∧
    (includes.passes n buffer).count .followed = followed

namespace Runs

variable {includes} {buffer left last rest : List SourceLine} {blocks later : List Block}
  {block : Block} {depth followed further : Nat}

theorem refl (buffer : List SourceLine) : includes.Runs buffer [] 0 buffer :=
  ⟨0, rfl, nofun, rfl, rfl⟩

theorem trans (h : includes.Runs buffer blocks followed left)
    (h' : includes.Runs left later further last) :
    includes.Runs buffer (blocks ++ later) (followed + further) last := by
  obtain ⟨m, rfl, hm, rfl, rfl⟩ := h
  obtain ⟨n, rfl, hn, rfl, rfl⟩ := h'
  refine ⟨m + n, includes.bufferAfter_add m n buffer, ?_, ?_, ?_⟩
  · rw [passes_add]
    exact List.forall_mem_append.mpr ⟨hm, hn⟩
  · rw [passes_add, List.filterMap_append]
  · rw [passes_add, List.count_append]

/-- A block in front is handed out. -/
theorem of_handed (h : scan buffer = .found block depth rest) (hm : block.mode ≠ includeMode) :
    includes.Runs buffer [block] 0 rest := by
  have hpass : includes.pass buffer = (.handed block, rest) := by simp [pass, h, hm]
  refine ⟨1, ?_, ?_, ?_, ?_⟩ <;> simp [passes, bufferAfter, hpass, Pass.ending?, Pass.block?]

/-- An include block in front is followed. -/
theorem of_followed {lines : List SourceLine} (h : scan buffer = .found block depth rest)
    (hm : block.mode = includeMode) (he : includes.expand depth block.lines = .ok lines) :
    includes.Runs buffer [] 1 (lines ++ rest) := by
  have hpass : includes.pass buffer = (.followed, lines ++ rest) := by simp [pass, h, hm, he]
  refine ⟨1, ?_, ?_, ?_, ?_⟩ <;> simp [passes, bufferAfter, hpass, Pass.ending?, Pass.block?]

/-- What holds of the lines there are and of those that are included holds of all lines that a
run leaves. -/
theorem forall_mem {P : SourceLine → Prop} (h : includes.Runs buffer blocks followed left)
    (hexpand : ∀ depth names lines, includes.expand depth names = .ok lines →
      ∀ line ∈ lines, P line)
    (hbuffer : ∀ line ∈ buffer, P line) : ∀ line ∈ left, P line := by
  obtain ⟨n, rfl, -⟩ := h
  exact forall_mem_bufferAfter hexpand n hbuffer

/-- What is read from a buffer is what a run hands out and what is read from there on. -/
theorem readBlocks_eq (h : includes.Runs buffer blocks followed left) :
    readBlocks includes buffer =
      (blocks ++ (readBlocks includes left).1, (readBlocks includes left).2) := by
  obtain ⟨n, rfl, hpasses, rfl, -⟩ := h
  induction n generalizing buffer with
  | zero => rfl
  | succ n ih =>
    obtain ⟨hfirst, hrest⟩ := List.forall_mem_cons.mp hpasses
    rw [readBlocks_eq_pass, hfirst]
    dsimp only
    rw [ih hrest, passes, bufferAfter]
    cases hb : (includes.pass buffer).1.block? <;> simp [hb]

end Runs

/-- A call for the next block is a run that hands out nothing, and the pass that answers it. -/
theorem exists_run_of_nextBlock (buffer : List SourceLine) :
    ∃ followed reached, includes.Runs buffer [] followed reached ∧
      (includes.pass reached).1.answer? = some (nextBlock includes buffer).1 ∧
      (includes.pass reached).2 = (nextBlock includes buffer).2 := by
  obtain ⟨n, hpasses, hanswer, hleft⟩ := nextBlock_passes includes buffer
  refine ⟨_, _, ⟨n, rfl, ?_, ?_, rfl⟩, hanswer, hleft⟩
  · exact fun pass hp => Pass.ending?_of_answer? (hpasses pass hp)
  · rw [List.filterMap_eq_nil_iff]
    intro pass hp
    cases pass with
    | handed block => cases hpasses _ hp
    | followed => rfl
    | ended => rfl
    | failed fault => rfl

/-- A run leads to each block that is read. It hands out the blocks before it, and the lines of the
block then are the first in the buffer. -/
theorem exists_run_of_readBlocks {buffer : List SourceLine} {before later : List Block}
    {block : Block} (h : (readBlocks includes buffer).1 = before ++ block :: later) :
    ∃ followed used rest depth, includes.Runs buffer before followed (used ++ rest) ∧
      block.ReadFrom used depth := by
  induction buffer using reading_induction includes generalizing before with
  | step buffer found expanded =>
    have hne : (readBlocks includes buffer).1 ≠ [] := by simp [h]
    cases hs : scan buffer with
    | broken kind trace =>
      rw [readBlocks_of_broken hs] at hne
      exact absurd rfl hne
    | exhausted =>
      rw [readBlocks_of_exhausted hs] at hne
      exact absurd rfl hne
    | found first depth rest =>
      by_cases hm : first.mode = includeMode
      · rw [readBlocks_of_include hs hm] at h hne
        cases he : includes.expand depth first.lines with
        | error fault =>
          rw [he] at hne
          exact absurd rfl hne
        | ok lines =>
          rw [he] at h
          obtain ⟨followed, used, left, d, hrun, hread⟩ :=
            expanded first depth rest lines hs hm he h
          exact ⟨_, used, left, d, (Runs.of_followed hs hm he).trans hrun, hread⟩
      · rw [readBlocks_of_found hs hm] at h
        cases before with
        | nil =>
          cases h
          obtain ⟨used, rfl, hread⟩ := scan_eq_found_iff.mp hs
          exact ⟨0, used, rest, depth, .refl _, hread⟩
        | cons other before =>
          obtain ⟨rfl, hlater⟩ := List.cons_eq_cons.mp h
          obtain ⟨followed, used, left, d, hrun, hread⟩ := found first depth rest hs hm hlater
          exact ⟨_, used, left, d, (Runs.of_handed hs hm).trans hrun, hread⟩

end Includes

/-! ### Lines of one depth -/

theorem sourceLines_eq_linesAt (depth : Nat) (text : String) :
    sourceLines depth text = linesAt depth (Text.lines text) :=
  rfl

theorem rawLines_linesAt (depth : Nat) (lines : List String) :
    rawLines (linesAt depth lines) = lines := by
  simp [rawLines, linesAt, Function.comp_def]

theorem depth_of_mem_linesAt {depth : Nat} {lines : List String} :
    ∀ line ∈ linesAt depth lines, line.depth = depth := by
  simp [linesAt]

theorem linesAt_eq_append {depth : Nat} {lines : List String} {a b : List SourceLine}
    (h : linesAt depth lines = a ++ b) :
    ∃ first second, lines = first ++ second ∧ a = linesAt depth first ∧
      b = linesAt depth second := by
  obtain ⟨first, second, hlines, ha, hb⟩ := List.map_eq_append_iff.mp h
  exact ⟨first, second, hlines, ha.symm, hb.symm⟩

/-! ### Blocks one after the other -/

/-- Blocks are read from lines one after the other, all from one depth. -/
inductive BlocksReadFrom (depth : Nat) : List Block → List SourceLine → Prop
  | nil : BlocksReadFrom depth [] []
  | cons {block : Block} {blocks : List Block} {lines rest : List SourceLine}
    (hblock : block.ReadFrom lines depth) (hrest : BlocksReadFrom depth blocks rest) :
    BlocksReadFrom depth (block :: blocks) (lines ++ rest)

namespace BlocksReadFrom

variable {depth : Nat} {blocks later : List Block} {lines rest : List SourceLine}

theorem single {block : Block} (h : block.ReadFrom lines depth) :
    BlocksReadFrom depth [block] lines := by
  simpa using BlocksReadFrom.cons h .nil

/-- Blocks that are not include blocks are handed out, whatever comes after them. -/
theorem runs (h : BlocksReadFrom depth blocks lines)
    (hplain : ∀ block ∈ blocks, block.mode ≠ includeMode) (includes : Includes)
    (more : List SourceLine) : includes.Runs (lines ++ more) blocks 0 more := by
  induction h with
  | nil => exact .refl more
  | @cons block blocks lines rest hblock _ ih =>
    obtain ⟨hmode, hplain⟩ := List.forall_mem_cons.mp hplain
    rw [List.append_assoc]
    exact (Includes.Runs.of_handed (hblock.scan_append _) hmode).trans (ih hplain)

end BlocksReadFrom

end CrossStitch
