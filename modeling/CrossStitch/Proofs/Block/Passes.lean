import CrossStitch.Proofs.Block.Reading

/-! The reader as a loop. One pass takes the first block off the buffer and hands it out, or
puts the lines of the files it names in its place, or comes to an end. Nothing in a pass
says that passes end: a pass may leave more lines than it found. Every reading is a finite
run of passes all the same, and none of them leaves a line from beyond the include limit. -/

namespace CrossStitch

/-- What one pass comes to. -/
inductive Pass
  /-- An include block was followed. The next pass goes on with its files. -/
  | followed
  | handed (block : Block)
  /-- There are no more blocks. -/
  | ended
  | failed (fault : Fault)
  deriving DecidableEq, Repr

namespace Pass

/-- The answer to a call for the next block, which only the following of an include block
leaves open. -/
def answer? : Pass → Option (Except Fault (Option Block))
  | followed => none
  | handed block => some (.ok (some block))
  | ended => some (.ok none)
  | failed fault => some (.error fault)

def block? : Pass → Option Block
  | handed block => some block
  | _ => none

/-- How the reading of all blocks ends, if it ends with this pass. -/
def ending? : Pass → Option (Option Fault)
  | ended => some none
  | failed fault => some (some fault)
  | _ => none

end Pass

namespace Includes

/-- One pass, and the buffer it leaves. -/
def pass (includes : Includes) (buffer : List SourceLine) : Pass × List SourceLine :=
  match scan buffer with
  | .broken kind trace => (.failed (.chart kind trace), buffer)
  | .exhausted => (.ended, [])
  | .found block depth rest =>
    if block.mode = includeMode then
      match includes.expand depth block.lines with
      | .error fault => (.failed fault, rest)
      | .ok lines => (.followed, lines ++ rest)
    else (.handed block, rest)

/-- The first passes from a buffer on, each on the buffer that the one before it leaves. -/
def passes (includes : Includes) : Nat → List SourceLine → List Pass
  | 0, _ => []
  | n + 1, buffer => (includes.pass buffer).1 :: includes.passes n (includes.pass buffer).2

/-- The buffer after so many passes. -/
def bufferAfter (includes : Includes) : Nat → List SourceLine → List SourceLine
  | 0, buffer => buffer
  | n + 1, buffer => includes.bufferAfter n (includes.pass buffer).2

end Includes

/-! ### The reader by passes -/

/-- A pass that does not end the reading goes on with a buffer of smaller tally. -/
theorem pass_induction {P : List SourceLine → Prop} (includes : Includes)
    (step : ∀ buffer,
      ((includes.pass buffer).1.ending? = none → P (includes.pass buffer).2) → P buffer)
    (buffer : List SourceLine) : P buffer := by
  induction buffer using reading_induction includes with
  | step buffer found expanded =>
    apply step
    intro h
    unfold Includes.pass at h ⊢
    split at h
    · cases h
    · cases h
    next block depth rest hs =>
      split at h
      next hm =>
        split at h
        · cases h
        next lines he =>
          simp only [if_pos hm]
          exact expanded block depth rest lines hs hm he
      next hm =>
        simp only [if_neg hm]
        exact found block depth rest hs hm

theorem nextBlock_eq_pass (includes : Includes) (buffer : List SourceLine) :
    nextBlock includes buffer =
      match (includes.pass buffer).1.answer? with
      | some answer => (answer, (includes.pass buffer).2)
      | none => nextBlock includes (includes.pass buffer).2 := by
  cases hs : scan buffer with
  | broken kind trace =>
    rw [nextBlock_of_broken hs]
    simp [Includes.pass, hs, Pass.answer?]
  | exhausted =>
    rw [nextBlock_of_exhausted hs]
    simp [Includes.pass, hs, Pass.answer?]
  | found block depth rest =>
    by_cases hm : block.mode = includeMode
    · rw [nextBlock_of_include hs hm]
      cases he : includes.expand depth block.lines <;>
        simp [Includes.pass, hs, hm, he, Pass.answer?]
    · rw [nextBlock_of_found hs hm]
      simp [Includes.pass, hs, hm, Pass.answer?]

theorem readBlocks_eq_pass (includes : Includes) (buffer : List SourceLine) :
    readBlocks includes buffer =
      match (includes.pass buffer).1.ending? with
      | some fault => ([], fault)
      | none =>
        let later := readBlocks includes (includes.pass buffer).2
        ((includes.pass buffer).1.block?.toList ++ later.1, later.2) := by
  cases hs : scan buffer with
  | broken kind trace =>
    rw [readBlocks_of_broken hs]
    simp [Includes.pass, hs, Pass.ending?]
  | exhausted =>
    rw [readBlocks_of_exhausted hs]
    simp [Includes.pass, hs, Pass.ending?]
  | found block depth rest =>
    by_cases hm : block.mode = includeMode
    · rw [readBlocks_of_include hs hm]
      cases he : includes.expand depth block.lines <;>
        simp [Includes.pass, hs, hm, he, Pass.ending?, Pass.block?]
    · rw [readBlocks_of_found hs hm]
      simp [Includes.pass, hs, hm, Pass.ending?, Pass.block?]

theorem Pass.ending?_of_answer? {pass : Pass} (h : pass.answer? = none) : pass.ending? = none := by
  cases pass with
  | followed => rfl
  | handed block => cases h
  | ended => cases h
  | failed fault => cases h

/-! ### Passes end -/

/-- A call for the next block is answered after finitely many passes. -/
theorem nextBlock_passes (includes : Includes) (buffer : List SourceLine) :
    ∃ n, (∀ pass ∈ includes.passes n buffer, pass.answer? = none) ∧
      let last := includes.pass (includes.bufferAfter n buffer)
      last.1.answer? = some (nextBlock includes buffer).1 ∧
        last.2 = (nextBlock includes buffer).2 := by
  induction buffer using pass_induction includes with
  | step buffer later =>
    rw [nextBlock_eq_pass]
    cases ha : (includes.pass buffer).1.answer? with
    | some answer => exact ⟨0, nofun, ha, rfl⟩
    | none =>
      obtain ⟨n, hpasses, hlast⟩ := later (Pass.ending?_of_answer? ha)
      exact ⟨n + 1, List.forall_mem_cons.mpr ⟨ha, hpasses⟩, hlast⟩

/-- All blocks are read after finitely many passes. -/
theorem readBlocks_passes (includes : Includes) (buffer : List SourceLine) :
    ∃ n, (∀ pass ∈ includes.passes n buffer, pass.ending? = none) ∧
      (includes.pass (includes.bufferAfter n buffer)).1.ending? =
        some (readBlocks includes buffer).2 ∧
      (includes.passes n buffer).filterMap Pass.block? = (readBlocks includes buffer).1 := by
  induction buffer using pass_induction includes with
  | step buffer later =>
    rw [readBlocks_eq_pass]
    cases he : (includes.pass buffer).1.ending? with
    | some fault => exact ⟨0, nofun, he, rfl⟩
    | none =>
      obtain ⟨n, hpasses, hlast, hblocks⟩ := later he
      refine ⟨n + 1, List.forall_mem_cons.mpr ⟨he, hpasses⟩, hlast, ?_⟩
      dsimp only
      rw [← hblocks]
      cases hb : (includes.pass buffer).1.block? <;> simp [Includes.passes, hb]

/-! ### Lines -/

/-- What holds of the lines there are and of those that are included holds of all lines that a
pass leaves. -/
theorem forall_mem_pass {includes : Includes} {P : SourceLine → Prop}
    (hexpand : ∀ depth names lines, includes.expand depth names = .ok lines →
      ∀ line ∈ lines, P line)
    {buffer : List SourceLine} (h : ∀ line ∈ buffer, P line) :
    ∀ line ∈ (includes.pass buffer).2, P line := by
  unfold Includes.pass
  split
  · exact h
  · exact nofun
  next block depth rest hs =>
    obtain ⟨before, opening, middle, rfl, _⟩ := scan_found hs
    have hrest : ∀ line ∈ rest, P line := fun line hl => h line (by simp [hl])
    split
    · split
      · exact hrest
      next lines he => exact List.forall_mem_append.mpr ⟨hexpand depth _ lines he, hrest⟩
    · exact hrest

theorem forall_mem_bufferAfter {includes : Includes} {P : SourceLine → Prop}
    (hexpand : ∀ depth names lines, includes.expand depth names = .ok lines →
      ∀ line ∈ lines, P line)
    (n : Nat) {buffer : List SourceLine} (h : ∀ line ∈ buffer, P line) :
    ∀ line ∈ includes.bufferAfter n buffer, P line := by
  induction n generalizing buffer with
  | zero => exact h
  | succ n ih => exact ih (forall_mem_pass hexpand h)

/-- No line is added from beyond the limit. -/
theorem depth_le_limit_bufferAfter {includes : Includes} (n : Nat) {buffer : List SourceLine}
    (h : ∀ line ∈ buffer, line.depth ≤ includes.limit) :
    ∀ line ∈ includes.bufferAfter n buffer, line.depth ≤ includes.limit := by
  refine forall_mem_bufferAfter (fun depth names lines he line hl => ?_) n h
  obtain ⟨hlimit, hload⟩ := Includes.expand_eq_ok he
  rw [Includes.load_depth hload line hl]
  exact hlimit

/-- Reading ends, whatever the files include: a call for the next block from any buffer, and
the reading of all blocks of a source, are finite runs of passes. However many passes are
made, no line in the buffer comes from deeper down than the include limit. -/
theorem reading_ends (includes : Includes) (source : String) :
    (∀ buffer, ∃ n, (∀ pass ∈ includes.passes n buffer, pass.answer? = none) ∧
      let last := includes.pass (includes.bufferAfter n buffer)
      last.1.answer? = some (nextBlock includes buffer).1 ∧
        last.2 = (nextBlock includes buffer).2) ∧
    (∃ n fault, (∀ pass ∈ includes.passes n (sourceLines 0 source), pass.ending? = none) ∧
      (includes.pass (includes.bufferAfter n (sourceLines 0 source))).1.ending? = some fault ∧
      readAll includes (sourceLines 0 source) =
        match fault with
        | some fault => .error fault
        | none => .ok ((includes.passes n (sourceLines 0 source)).filterMap Pass.block?)) ∧
    ∀ n, ∀ line ∈ includes.bufferAfter n (sourceLines 0 source),
      line.depth ≤ includes.limit := by
  refine ⟨nextBlock_passes includes, ?_, ?_⟩
  · obtain ⟨n, hpasses, hlast, hblocks⟩ := readBlocks_passes includes (sourceLines 0 source)
    refine ⟨n, _, hpasses, hlast, ?_⟩
    rw [hblocks, readAll]
    rcases readBlocks includes (sourceLines 0 source) with ⟨blocks, _ | fault⟩ <;> rfl
  · intro n
    apply depth_le_limit_bufferAfter
    intro line hl
    obtain ⟨text, _, rfl⟩ := List.mem_map.mp hl
    exact Nat.zero_le _

end CrossStitch
