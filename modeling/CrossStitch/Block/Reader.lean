import CrossStitch.Block.Scan
import CrossStitch.Block.Descent
import CrossStitch.Files.Path
import CrossStitch.Text.Line

/-! Reading blocks from a buffer of lines. An include block is not handed on: the
lines of the files it names take its place at the front of the buffer, one level
deeper, and reading goes on with them. So a block may begin in one file and end in
another. -/

namespace CrossStitch

/-- The text of a file by its path. -/
abbrev Files := String → Except FileFault String

/-- How include blocks are followed. -/
structure Includes where
  files : Files
  /-- Where relative paths start, when that is not the working directory. -/
  root : Option String
  /-- How many includes deep a line may come from. -/
  limit : Nat

/-- The include limit of a chart that sets none. -/
def defaultIncludeLimit : Nat := 16

/-- The lines of a text, all of the given depth. -/
def sourceLines (depth : Nat) (text : String) : List SourceLine :=
  (Text.lines text).map fun line => ⟨line, depth⟩

namespace Includes

/-- The path a line of an include block names. -/
def path (includes : Includes) (line : String) : String :=
  match includes.root with
  | some root => Path.join root line
  | none => line

/-- The lines of the named files one after the other, or the path and the fault of
the first file that cannot be read. -/
def load (includes : Includes) (depth : Nat) :
    List String → Except (String × FileFault) (List SourceLine)
  | [] => .ok []
  | name :: names =>
    match includes.files (includes.path name) with
    | .error cause => .error (includes.path name, cause)
    | .ok text =>
      match load includes depth names with
      | .error fault => .error fault
      | .ok lines => .ok (sourceLines depth text ++ lines)

theorem load_depth {includes : Includes} {depth : Nat} {names : List String}
    {lines : List SourceLine} (h : includes.load depth names = .ok lines) :
    ∀ l ∈ lines, l.depth = depth := by
  induction names generalizing lines with
  | nil => cases h; simp
  | cons name names ih =>
    rw [load] at h
    split at h
    · cases h
    · split at h
      · cases h
      · next tail ht =>
        cases h
        intro l hl
        rcases List.mem_append.mp hl with hl | hl
        · simp only [sourceLines, List.mem_map] at hl
          obtain ⟨_, _, rfl⟩ := hl
          rfl
        · exact ih ht l hl

end Includes

set_option linter.unusedVariables false in
/-- Reads the next block that is not an include block, and what the buffer then
holds. A fault of the block grammar leaves the buffer as it was; a refused or
unreadable include has already been taken off it. -/
def nextBlock (includes : Includes) (buffer : List SourceLine) :
    Except Fault (Option Block) × List SourceLine :=
  match hscan : scan buffer with
  | .broken kind trace => (.error (.chart kind trace), buffer)
  | .exhausted => (.ok none, [])
  | .found block depth rest =>
    if block.mode = includeMode then
      if hdepth : depth < includes.limit then
        match hload : includes.load (depth + 1) block.lines with
        | .error (path, cause) => (.error (.unreadableInclude path cause block.lines), rest)
        | .ok lines => nextBlock includes (lines ++ rest)
      else (.error (.chart (.includeDepthExceeded includes.limit) block.lines), rest)
    else (.ok (some block), rest)
termination_by tally includes.limit buffer
decreasing_by
  obtain ⟨before, line, middle, rfl, hline⟩ := scan_found hscan
  exact tally_splice_less before middle rest lines line (hline ▸ hdepth)
    (hline ▸ Includes.load_depth hload)

/-- Every block handed out leaves a buffer of smaller tally. -/
theorem nextBlock_less {includes : Includes} {buffer : List SourceLine} {block : Block}
    {left : List SourceLine} (h : nextBlock includes buffer = (.ok (some block), left)) :
    (tally includes.limit left).Less (tally includes.limit buffer) := by
  rw [nextBlock] at h
  split at h
  · cases h
  · cases h
  · next found depth rest hscan =>
    obtain ⟨before, line, middle, hbuffer, hline⟩ := scan_found hscan
    split at h
    · split at h
      · next hdepth =>
        split at h
        · cases h
        · next lines hload =>
          have hsplice : (tally includes.limit (lines ++ rest)).Less
              (tally includes.limit buffer) := by
            rw [hbuffer]
            exact tally_splice_less before middle rest lines line (hline ▸ hdepth)
              (hline ▸ Includes.load_depth hload)
          exact Tally.less_trans (nextBlock_less h) hsplice
      · cases h
    · cases h
      rw [hbuffer]
      exact tally_rest_less _ before middle _ line
termination_by tally includes.limit buffer
decreasing_by exact hsplice

set_option linter.unusedVariables false in
/-- Reads blocks until there are no more or one is at fault: the blocks read, and
the fault if there was one. -/
def readBlocks (includes : Includes) (buffer : List SourceLine) : List Block × Option Fault :=
  match hnext : nextBlock includes buffer with
  | (.error fault, _) => ([], some fault)
  | (.ok none, _) => ([], none)
  | (.ok (some block), left) =>
    let later := readBlocks includes left
    (block :: later.1, later.2)
termination_by tally includes.limit buffer
decreasing_by exact nextBlock_less hnext

/-- All blocks of the buffer, or the fault that ended the reading. -/
def readAll (includes : Includes) (buffer : List SourceLine) : Except Fault (List Block) :=
  match readBlocks includes buffer with
  | (_, some fault) => .error fault
  | (blocks, none) => .ok blocks

end CrossStitch
