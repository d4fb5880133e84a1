import CrossStitch.Proofs.Block.Run

/-! How deep includes nest. The include limit counts how many files lie inside one another, and
nothing else. A chain of files that include one another is read to its end if it is no longer than
the limit. Otherwise as many files are followed as the limit says, and the next include block is
refused. Files that are included side by side do not add up. -/

namespace CrossStitch

/-! ### Lines of complete blocks -/

/-- The lines are those of the blocks, with idle lines before, between and after them. -/
def CompleteLines (depth : Nat) (blocks : List Block) (lines : List SourceLine) : Prop :=
  ∃ used idle, lines = used ++ idle ∧ BlocksReadFrom depth blocks used ∧
    ∀ line ∈ idle, line.isIdle = true

/-- The line as it is read from another depth. -/
def SourceLine.moved (depth : Nat) (line : SourceLine) : SourceLine :=
  ⟨line.text, depth⟩

@[simp] theorem isIdle_moved (depth : Nat) (line : SourceLine) :
    (line.moved depth).isIdle = line.isIdle := rfl

@[simp] theorem closes_moved (depth : Nat) (line : SourceLine) :
    (line.moved depth).closes = line.closes := rfl

theorem bodyTexts_moved (depth : Nat) (body : List SourceLine) :
    bodyTexts (body.map (SourceLine.moved depth)) = bodyTexts body := by
  simp [bodyTexts, List.filter_map, Function.comp_def, SourceLine.moved, SourceLine.isIdle,
    SourceLine.content]

theorem sourceLines_moved (d e : Nat) (text : String) :
    (sourceLines d text).map (SourceLine.moved e) = sourceLines e text := by
  simp [sourceLines, SourceLine.moved]

/-- A block can be read from any depth. -/
theorem Block.ReadFrom.moved {block : Block} {lines : List SourceLine} {d : Nat}
    (h : block.ReadFrom lines d) (e : Nat) :
    block.ReadFrom (lines.map (SourceLine.moved e)) e := by
  obtain ⟨texts, hlines, htexts⟩ := h
  refine ⟨texts, ?_, htexts⟩
  cases hlines with
  | @short idle line mode body hidle hline hcontent hmode hbody hne =>
    have hmoved : (line.moved e).isIdle = false := hline
    rw [List.map_append]
    exact .short (by simpa using hidle) hmoved hcontent hmode hbody hne
  | @long idle body line closing mode hidle hline hcontent hmode hbody hne hclosing =>
    have hmoved : (line.moved e).isIdle = false := hline
    rw [List.map_append, List.map_cons, List.map_append, ← bodyTexts_moved e]
    exact .long (by simpa using hidle) hmoved hcontent hmode (by simpa using hbody)
      (by rwa [bodyTexts_moved]) hclosing

/-- Idle lines before a block belong to it. -/
theorem Block.ReadFrom.idle_append {block : Block} {depth : Nat} {idle lines : List SourceLine}
    (h : block.ReadFrom lines depth) (hidle : ∀ l ∈ idle, l.isIdle = true) :
    block.ReadFrom (idle ++ lines) depth := by
  obtain ⟨texts, hlines, htexts⟩ := h
  refine ⟨texts, ?_, htexts⟩
  cases hlines with
  | short hfront hline hcontent hmode hbody hne =>
    rw [← List.append_assoc]
    exact .short (List.forall_mem_append.mpr ⟨hidle, hfront⟩) hline hcontent hmode hbody hne
  | long hfront hline hcontent hmode hbody hne hclosing =>
    rw [← List.append_assoc]
    exact .long (List.forall_mem_append.mpr ⟨hidle, hfront⟩) hline hcontent hmode hbody hne hclosing

namespace BlocksReadFrom

variable {depth : Nat} {first second : List Block} {a b : List SourceLine}

theorem moved (h : BlocksReadFrom depth first a) (e : Nat) :
    BlocksReadFrom e first (a.map (SourceLine.moved e)) := by
  induction h with
  | nil => exact .nil
  | cons hblock _ ih =>
    rw [List.map_append]
    exact .cons (hblock.moved e) ih

theorem append (h : BlocksReadFrom depth first a) (h' : BlocksReadFrom depth second b) :
    BlocksReadFrom depth (first ++ second) (a ++ b) := by
  induction h with
  | nil => exact h'
  | cons hblock _ ih =>
    rw [List.cons_append, List.append_assoc]
    exact .cons hblock ih

theorem split (h : BlocksReadFrom depth (first ++ second) a) :
    ∃ front back, a = front ++ back ∧ BlocksReadFrom depth first front ∧
      BlocksReadFrom depth second back := by
  induction first generalizing a with
  | nil => exact ⟨[], a, rfl, .nil, h⟩
  | cons block first ih =>
    cases h with
    | @cons _ _ lines rest hblock hrest =>
      obtain ⟨front, back, rfl, hfirst, hsecond⟩ := ih hrest
      exact ⟨lines ++ front, back, by rw [List.append_assoc], .cons hblock hfirst, hsecond⟩

end BlocksReadFrom

namespace CompleteLines

variable {depth : Nat} {block : Block} {first second blocks : List Block}
  {idle a b lines : List SourceLine}

theorem of_idle (h : ∀ line ∈ idle, line.isIdle = true) : CompleteLines depth [] idle :=
  ⟨[], idle, rfl, .nil, h⟩

theorem moved (h : CompleteLines depth blocks lines) (e : Nat) :
    CompleteLines e blocks (lines.map (SourceLine.moved e)) := by
  obtain ⟨used, idle, rfl, hused, hidle⟩ := h
  exact ⟨_, _, List.map_append, hused.moved e, by simpa using hidle⟩

/-- A text is complete wherever it is included. -/
theorem sourceLines {text : String} (h : CompleteLines 0 blocks (sourceLines 0 text)) (e : Nat) :
    CompleteLines e blocks (CrossStitch.sourceLines e text) :=
  sourceLines_moved 0 e text ▸ h.moved e

theorem idle_append (h : CompleteLines depth blocks lines)
    (hidle : ∀ line ∈ idle, line.isIdle = true) : CompleteLines depth blocks (idle ++ lines) := by
  obtain ⟨used, rest, rfl, hused, hrest⟩ := h
  cases hused with
  | nil => exact .of_idle (List.forall_mem_append.mpr ⟨hidle, hrest⟩)
  | cons hblock hblocks =>
    exact ⟨_, rest, by simp, .cons (hblock.idle_append hidle) hblocks, hrest⟩

theorem blocks_append (h : BlocksReadFrom depth first a) (h' : CompleteLines depth second b) :
    CompleteLines depth (first ++ second) (a ++ b) := by
  obtain ⟨used, idle, rfl, hused, hidle⟩ := h'
  exact ⟨a ++ used, idle, by rw [List.append_assoc], h.append hused, hidle⟩

theorem append (h : CompleteLines depth first a) (h' : CompleteLines depth second b) :
    CompleteLines depth (first ++ second) (a ++ b) := by
  obtain ⟨used, idle, rfl, hused, hidle⟩ := h
  rw [List.append_assoc]
  exact blocks_append hused (h'.idle_append hidle)

theorem of_found (rest : List SourceLine) (h : scan lines = .found block depth rest)
    (hrest : CompleteLines depth blocks rest) : CompleteLines depth (block :: blocks) lines := by
  obtain ⟨used, rfl, hread⟩ := scan_eq_found_iff.mp h
  exact blocks_append (.single hread) hrest

theorem split (h : CompleteLines depth (first ++ second) lines) :
    ∃ front back, lines = front ++ back ∧ BlocksReadFrom depth first front ∧
      CompleteLines depth second back := by
  obtain ⟨used, idle, rfl, hused, hidle⟩ := h
  obtain ⟨front, back, rfl, hfirst, hsecond⟩ := hused.split
  exact ⟨front, back ++ idle, by rw [List.append_assoc], hfirst, back, idle, rfl, hsecond, hidle⟩

theorem split_cons (h : CompleteLines depth (block :: blocks) lines) :
    ∃ front back, lines = front ++ back ∧ block.ReadFrom front depth ∧
      CompleteLines depth blocks back := by
  obtain ⟨used, idle, rfl, hused, hidle⟩ := h
  cases hused with
  | @cons _ _ front rest hblock hrest =>
    exact ⟨front, rest ++ idle, by rw [List.append_assoc], hblock, rest, idle, rfl, hrest, hidle⟩

/-- Complete blocks that are not include blocks are handed out up to idle lines. -/
theorem runs (h : CompleteLines depth blocks lines)
    (hplain : ∀ block ∈ blocks, block.mode ≠ includeMode) (includes : Includes)
    (more : List SourceLine) :
    ∃ idle, (∀ line ∈ idle, line.isIdle = true) ∧
      includes.Runs (lines ++ more) blocks 0 (idle ++ more) := by
  obtain ⟨used, idle, rfl, hused, hidle⟩ := h
  refine ⟨idle, hidle, ?_⟩
  rw [List.append_assoc]
  exact hused.runs hplain includes _

end CompleteLines

/-! ### One include block -/

namespace Includes

variable {includes : Includes}

/-- The file that the name leads to can be read and is made up of the blocks. -/
def FileHolds (includes : Includes) (name : String) (blocks : List Block) : Prop :=
  ∃ text, includes.files (includes.path name) = .ok text ∧
    CompleteLines 0 blocks (sourceLines 0 text)

/-- Complete files are complete one after the other. -/
theorem exists_lines_of_fileHolds {names : List String} {inner : List (List Block)}
    (h : List.Forall₂ includes.FileHolds names inner) (depth : Nat) :
    ∃ lines, includes.load depth names = .ok lines ∧ CompleteLines depth inner.flatten lines := by
  induction h with
  | nil => exact ⟨[], rfl, .of_idle nofun⟩
  | @cons name blocks names inner hname _ ih =>
    obtain ⟨text, htext, hblocks⟩ := hname
    obtain ⟨lines, hlines, hinner⟩ := ih
    refine ⟨sourceLines depth text ++ lines, ?_, (hblocks.sourceLines depth).append hinner⟩
    rw [load, htext, hlines]

variable {block : Block} {used : List SourceLine} {depth : Nat}

/-- Above the limit an include block is followed. -/
theorem runs_of_include (hread : block.ReadFrom used depth) (hmode : block.mode = includeMode)
    (hlimit : depth < includes.limit) {inner : List (List Block)}
    (hfiles : List.Forall₂ includes.FileHolds block.lines inner) (more : List SourceLine) :
    ∃ lines, CompleteLines (depth + 1) inner.flatten lines ∧
      includes.Runs (used ++ more) [] 1 (lines ++ more) := by
  obtain ⟨lines, hload, hcomplete⟩ := exists_lines_of_fileHolds hfiles (depth + 1)
  refine ⟨lines, hcomplete, .of_followed (hread.scan_append more) hmode ?_⟩
  simp only [expand, if_pos hlimit, hload]

/-- At the limit it is refused. -/
theorem pass_of_include (hread : block.ReadFrom used depth) (hmode : block.mode = includeMode)
    (hlimit : includes.limit ≤ depth) (more : List SourceLine) :
    (includes.pass (used ++ more)).1 =
      .failed (.chart (.includeDepthExceeded includes.limit) block.lines) := by
  simp [pass, hread.scan_append more, hmode, expand, Nat.not_lt.mpr hlimit]

/-- The reading fails when so many include blocks have been followed. -/
def FailsAfter (includes : Includes) (buffer : List SourceLine) (followed : Nat) (fault : Fault) :
    Prop :=
  ∃ blocks left, includes.Runs buffer blocks followed left ∧
    (includes.pass left).1 = .failed fault

theorem FailsAfter.of_runs {buffer left : List SourceLine} {blocks : List Block}
    {followed further : Nat} {fault : Fault} (h : includes.Runs buffer blocks followed left)
    (hf : includes.FailsAfter left further fault) :
    includes.FailsAfter buffer (followed + further) fault := by
  obtain ⟨later, last, hrun, hpass⟩ := hf
  exact ⟨blocks ++ later, last, h.trans hrun, hpass⟩

theorem FailsAfter.readAll_eq {buffer : List SourceLine} {followed : Nat} {fault : Fault}
    (h : includes.FailsAfter buffer followed fault) : readAll includes buffer = .error fault := by
  obtain ⟨blocks, left, hrun, hpass⟩ := h
  rw [readAll_eq_error_iff, hrun.readBlocks_eq, readBlocks_eq_pass, hpass]
  rfl

/-- A run to idle lines has read everything. -/
theorem Runs.readAll_eq {buffer idle : List SourceLine} {blocks : List Block} {followed : Nat}
    (h : includes.Runs buffer blocks followed idle) (hidle : ∀ line ∈ idle, line.isIdle = true) :
    readAll includes buffer = .ok blocks := by
  rw [readAll_eq_ok_iff, h.readBlocks_eq, readBlocks_of_exhausted (scan_of_idle hidle),
    List.append_nil]

end Includes

/-! ### Chains of includes -/

/-- The blocks of a file around its one include block, which names one file. -/
structure Link where
  before : List Block
  name : String
  after : List Block
  plain : ∀ block ∈ before ++ after, block.mode ≠ includeMode

def Link.blocks (link : Link) : List Block :=
  link.before ++ ⟨includeMode, [link.name]⟩ :: link.after

/-- The blocks of all files of a chain, as they are read. -/
def chainBlocks : List Link → List Block → List Block
  | [], last => last
  | link :: links, last => link.before ++ chainBlocks links last ++ link.after

namespace Includes

/-- The first blocks include a file, which includes the next, and so on up to one with the last
blocks. -/
def Leads (includes : Includes) : List Block → List Link → List Block → Prop
  | first, [], last => first = last
  | first, link :: links, last =>
    first = link.blocks ∧
      ∃ next, includes.FileHolds link.name next ∧ includes.Leads next links last

variable {includes : Includes}

theorem Leads.append {first middle last : List Block} {links further : List Link}
    (h : includes.Leads first links middle) (h' : includes.Leads middle further last) :
    includes.Leads first (links ++ further) last := by
  induction links generalizing first with
  | nil =>
    cases h
    exact h'
  | cons link links ih =>
    obtain ⟨hfirst, next, hfile, hnext⟩ := h
    exact ⟨hfirst, next, hfile, ih hnext⟩

/-- A chain that comes back to where it started can be gone through any number of times. -/
theorem Leads.replicate {blocks : List Block} {cycle : List Link}
    (h : includes.Leads blocks cycle blocks) (n : Nat) :
    includes.Leads blocks (List.replicate n cycle).flatten blocks := by
  induction n with
  | zero => exact rfl
  | succ n ih =>
    rw [List.replicate_succ, List.flatten_cons]
    exact h.append ih

/-- A chain that does not reach beyond the limit is followed to its end. -/
theorem Leads.runs {first last : List Block} {links : List Link}
    (h : includes.Leads first links last) (hlast : ∀ block ∈ last, block.mode ≠ includeMode)
    {depth : Nat} {lines : List SourceLine} (hlines : CompleteLines depth first lines)
    (hlimit : depth + links.length ≤ includes.limit) (more : List SourceLine) :
    ∃ idle, (∀ line ∈ idle, line.isIdle = true) ∧
      includes.Runs (lines ++ more) (chainBlocks links last) links.length (idle ++ more) := by
  induction links generalizing first depth lines more with
  | nil =>
    cases h
    exact hlines.runs hlast includes more
  | cons link links ih =>
    obtain ⟨rfl, next, hfile, hnext⟩ := h
    rw [List.length_cons] at hlimit
    obtain ⟨hbefore, hafter⟩ := List.forall_mem_append.mp link.plain
    obtain ⟨front, _, rfl, hfront, hrest⟩ := hlines.split
    obtain ⟨used, back, rfl, hread, hback⟩ := hrest.split_cons
    obtain ⟨inner, hinner, hfollow⟩ :=
      runs_of_include hread rfl (by omega) (.cons hfile .nil) (back ++ more)
    rw [List.flatten_singleton] at hinner
    obtain ⟨idle, hidle, hchain⟩ := ih hnext hinner (by omega) (back ++ more)
    -- what the files leave over stands before the rest of the first blocks
    obtain ⟨idle', hidle', hleft⟩ := (hback.idle_append hidle).runs hafter includes more
    refine ⟨idle', hidle', ?_⟩
    have hrun := (hfront.runs hbefore includes (used ++ (back ++ more))).trans
      (hfollow.trans (hchain.trans (List.append_assoc idle back more ▸ hleft)))
    simpa [chainBlocks, Nat.add_comm] using hrun

/-- A chain that reaches beyond the limit is followed up to the limit and refused there. -/
theorem Leads.failsAfter {first last : List Block} {links : List Link}
    (h : includes.Leads first links last) {depth n : Nat} (hdepth : depth + n = includes.limit)
    (hn : n < links.length) {lines : List SourceLine} (hlines : CompleteLines depth first lines)
    (more : List SourceLine) :
    includes.FailsAfter (lines ++ more) n
      (.chart (.includeDepthExceeded includes.limit) [links[n].name]) := by
  induction links generalizing first depth n lines more with
  | nil => cases hn
  | cons link links ih =>
    obtain ⟨rfl, next, hfile, hnext⟩ := h
    obtain ⟨hbefore, _⟩ := List.forall_mem_append.mp link.plain
    obtain ⟨front, _, rfl, hfront, hrest⟩ := hlines.split
    obtain ⟨used, back, rfl, hread, _⟩ := hrest.split_cons
    have hstart := hfront.runs hbefore includes (used ++ (back ++ more))
    rw [← List.append_assoc used, ← List.append_assoc front] at hstart
    cases n with
    | zero =>
      refine ⟨_, _, hstart, ?_⟩
      rw [List.append_assoc]
      exact pass_of_include hread rfl (by omega) _
    | succ n =>
      obtain ⟨inner, hinner, hfollow⟩ :=
        runs_of_include hread rfl (by omega) (.cons hfile .nil) (back ++ more)
      rw [List.flatten_singleton] at hinner
      have hfails := ih hnext (by omega) (Nat.lt_of_succ_lt_succ hn) hinner (back ++ more)
      have hrun := hstart.trans (List.append_assoc used back more ▸ hfollow)
      simpa [Nat.add_comm] using FailsAfter.of_runs hrun hfails

/-! ### Includes side by side -/

/-- The includes of the blocks can be followed, and lie at most so many files deep. -/
def NestsWithin (includes : Includes) : Nat → List Block → Prop
  | 0, blocks => ∀ block ∈ blocks, block.mode ≠ includeMode
  | n + 1, blocks => ∀ block ∈ blocks, block.mode = includeMode →
    ∃ inner, List.Forall₂ includes.FileHolds block.lines inner ∧
      includes.NestsWithin n inner.flatten

variable {block : Block} {blocks : List Block} {n depth : Nat} {lines : List SourceLine}

theorem nestsWithin_nil : includes.NestsWithin n [] := by
  cases n <;> simp [NestsWithin]

theorem nestsWithin_cons :
    includes.NestsWithin n (block :: blocks) ↔
      (block.mode = includeMode → ∃ m inner, n = m + 1 ∧
        List.Forall₂ includes.FileHolds block.lines inner ∧
        includes.NestsWithin m inner.flatten) ∧
      includes.NestsWithin n blocks := by
  cases n <;> simp [NestsWithin]

/-- Blocks are gone through one by one, and those of files are less deep nested. -/
theorem nesting_induction {P : Nat → List Block → Prop} (nil : ∀ n, P n [])
    (cons : ∀ n block blocks, (∀ m inner, m < n → P m inner) → P n blocks →
      P n (block :: blocks)) (n : Nat) (blocks : List Block) : P n blocks := by
  induction n using Nat.strongRecOn generalizing blocks with
  | ind n ih =>
    induction blocks with
    | nil => exact nil n
    | cons block blocks later => exact cons n block blocks (fun m inner hm => ih m hm inner) later

/-- Includes that lie within the limit are followed, however many there are. -/
theorem NestsWithin.runs (h : includes.NestsWithin n blocks)
    (hlines : CompleteLines depth blocks lines) (hlimit : depth + n ≤ includes.limit)
    (more : List SourceLine) :
    ∃ read followed idle, (∀ line ∈ idle, line.isIdle = true) ∧
      includes.Runs (lines ++ more) read followed (idle ++ more) := by
  induction n, blocks using nesting_induction generalizing depth lines more with
  | nil n =>
    obtain ⟨idle, hidle, hrun⟩ := hlines.runs nofun includes more
    exact ⟨_, _, idle, hidle, hrun⟩
  | cons n block blocks inside later =>
    obtain ⟨hblock, hblocks⟩ := nestsWithin_cons.mp h
    obtain ⟨used, back, rfl, hread, hback⟩ := hlines.split_cons
    rw [List.append_assoc]
    by_cases hmode : block.mode = includeMode
    · obtain ⟨m, inner, rfl, hfiles, hinner⟩ := hblock hmode
      obtain ⟨included, hcomplete, hfollow⟩ :=
        runs_of_include hread hmode (by omega) hfiles (back ++ more)
      obtain ⟨_, _, idle, hidle, hrun⟩ :=
        inside m _ (by omega) hinner hcomplete (by omega) (back ++ more)
      obtain ⟨_, _, idle', hidle', hrest⟩ := later hblocks (hback.idle_append hidle) hlimit more
      rw [List.append_assoc] at hrest
      exact ⟨_, _, idle', hidle', hfollow.trans (hrun.trans hrest)⟩
    · obtain ⟨_, _, idle, hidle, hrest⟩ := later hblocks hback hlimit more
      exact ⟨_, _, idle, hidle, (Runs.of_handed (hread.scan_append _) hmode).trans hrest⟩

/-- Includes that do not all lie within the limit are refused at the first that lies beyond. -/
theorem failsAfter_of_not_nestsWithin {k : Nat} (hk : includes.NestsWithin k blocks)
    (h : ¬ includes.NestsWithin n blocks) (hlines : CompleteLines depth blocks lines)
    (hdepth : depth + n = includes.limit) (more : List SourceLine) :
    ∃ followed trace, includes.FailsAfter (lines ++ more) followed
      (.chart (.includeDepthExceeded includes.limit) trace) := by
  induction n, blocks using nesting_induction generalizing k depth lines more with
  | nil n => exact absurd nestsWithin_nil h
  | cons n block blocks inside later =>
    obtain ⟨hblock, hblocks⟩ := nestsWithin_cons.mp hk
    obtain ⟨used, back, rfl, hread, hback⟩ := hlines.split_cons
    rw [List.append_assoc]
    by_cases hmode : block.mode = includeMode
    · rcases Nat.eq_zero_or_pos n with rfl | hpos
      · exact ⟨0, _, [], _, .refl _, pass_of_include hread hmode (by omega) _⟩
      obtain ⟨m, rfl⟩ := Nat.exists_eq_add_of_le' hpos
      obtain ⟨j, inner, rfl, hfiles, hinner⟩ := hblock hmode
      obtain ⟨included, hcomplete, hfollow⟩ :=
        runs_of_include hread hmode (by omega) hfiles (back ++ more)
      by_cases hm : includes.NestsWithin m inner.flatten
      · -- the files of this block are read, and a later one lies too deep
        obtain ⟨_, _, idle, hidle, hrun⟩ := hm.runs hcomplete (by omega) (back ++ more)
        have hlater : ¬ includes.NestsWithin (m + 1) blocks := fun hb =>
          h (nestsWithin_cons.mpr ⟨fun _ => ⟨m, inner, rfl, hfiles, hm⟩, hb⟩)
        obtain ⟨_, _, hfails⟩ := later hblocks hlater (hback.idle_append hidle) hdepth more
        rw [List.append_assoc] at hfails
        exact ⟨_, _, hfails.of_runs (hfollow.trans hrun)⟩
      · obtain ⟨_, _, hfails⟩ :=
          inside m _ (by omega) hinner hm hcomplete (by omega) (back ++ more)
        exact ⟨_, _, hfails.of_runs hfollow⟩
    · have hlater : ¬ includes.NestsWithin n blocks := fun hb =>
        h (nestsWithin_cons.mpr ⟨fun hi => absurd hi hmode, hb⟩)
      obtain ⟨_, _, hfails⟩ := later hblocks hlater hback hdepth more
      exact ⟨_, _, hfails.of_runs (.of_handed (hread.scan_append _) hmode)⟩

end Includes

/-- Reading the source fails at an include block of one name, which is refused for the include
limit after as many include blocks as the limit says have been followed. -/
def Includes.StopsAtLimit (includes : Includes) (source name : String) : Prop :=
  let fault := .chart (.includeDepthExceeded includes.limit) [name]
  readAll includes (sourceLines 0 source) = .error fault ∧
    includes.FailsAfter (sourceLines 0 source) includes.limit fault

theorem Includes.Leads.stopsAtLimit {includes : Includes} {source : String}
    {first last : List Block} {links : List Link} (h : includes.Leads first links last)
    (hfirst : CompleteLines 0 first (sourceLines 0 source)) (hn : includes.limit < links.length) :
    includes.StopsAtLimit source links[includes.limit].name := by
  have hfails := h.failsAfter (Nat.zero_add _) hn hfirst []
  rw [List.append_nil] at hfails
  exact ⟨hfails.readAll_eq, hfails⟩

/-- The include limit counts how deep includes nest. A chain of includes as long as the limit or
shorter is read to its end. A longer one, and one that runs in a circle, is refused after as many
include blocks as the limit says. And of sources whose includes nest only finitely deep, with any
number of them side by side, those are read to their end that nest no deeper than the limit. -/
theorem include_limit_counts_nesting {includes : Includes} {source : String} {first : List Block}
    (h : CompleteLines 0 first (sourceLines 0 source)) :
    (∀ links last, includes.Leads first links last → (∀ block ∈ last, block.mode ≠ includeMode) →
      links.length ≤ includes.limit →
      readAll includes (sourceLines 0 source) = .ok (chainBlocks links last)) ∧
    (∀ links last, includes.Leads first links last → ∀ hn : includes.limit < links.length,
      includes.StopsAtLimit source links[includes.limit].name) ∧
    (∀ stem cycle blocks, includes.Leads first stem blocks → includes.Leads blocks cycle blocks →
      cycle ≠ [] →
      let links := stem ++ (List.replicate (includes.limit + 1) cycle).flatten
      ∃ hn : includes.limit < links.length,
        includes.StopsAtLimit source links[includes.limit].name) ∧
    ∀ n, includes.NestsWithin n first →
      ((∃ blocks, readAll includes (sourceLines 0 source) = .ok blocks) ↔
        includes.NestsWithin includes.limit first) ∧
      (¬ includes.NestsWithin includes.limit first →
        ∃ trace, readAll includes (sourceLines 0 source) =
          .error (.chart (.includeDepthExceeded includes.limit) trace)) := by
  refine ⟨?_, fun links last hleads => hleads.stopsAtLimit h, ?_, ?_⟩
  · intro links last hleads hlast hlimit
    obtain ⟨idle, hidle, hrun⟩ := hleads.runs hlast h (by omega) []
    rw [List.append_nil, List.append_nil] at hrun
    exact hrun.readAll_eq hidle
  · intro stem cycle blocks hstem hcycle hne links
    have hlength : includes.limit < links.length := by
      have hpos := List.length_pos_iff.mpr hne
      have hmul := Nat.le_mul_of_pos_right (includes.limit + 1) hpos
      simp only [links, List.length_append, List.length_flatten, List.map_replicate,
        List.sum_replicate_nat]
      omega
    exact ⟨hlength, (hstem.append (hcycle.replicate _)).stopsAtLimit h hlength⟩
  · intro n hn
    have hread : includes.NestsWithin includes.limit first →
        ∃ blocks, readAll includes (sourceLines 0 source) = .ok blocks := by
      intro hlimit
      obtain ⟨read, _, idle, hidle, hrun⟩ := hlimit.runs h (by omega) []
      rw [List.append_nil, List.append_nil] at hrun
      exact ⟨read, hrun.readAll_eq hidle⟩
    have hrefused : ¬ includes.NestsWithin includes.limit first →
        ∃ trace, readAll includes (sourceLines 0 source) =
          .error (.chart (.includeDepthExceeded includes.limit) trace) := by
      intro hlimit
      obtain ⟨_, trace, hfails⟩ :=
        Includes.failsAfter_of_not_nestsWithin hn hlimit h (Nat.zero_add _) []
      rw [List.append_nil] at hfails
      exact ⟨trace, hfails.readAll_eq⟩
    refine ⟨⟨fun ⟨blocks, hok⟩ => ?_, hread⟩, hrefused⟩
    by_contra hlimit
    obtain ⟨trace, herror⟩ := hrefused hlimit
    cases hok.symm.trans herror

/-- A file that includes another one, and a file that includes itself. -/
def includingFiles (limit : Nat) : Includes where
  files path :=
    if path = "outer" then .ok "a => \x7bx\x7d\ninclude => \x7binner\x7d\n# end"
    else if path = "inner" then .ok "\nb => \x7by\x7d\n"
    else if path = "loop" then .ok "include => \x7bloop\x7d"
    else .error .notFound
  root := none
  limit := limit

/-- Two files inside one another are read under the limit 2 and refused under the limit 1. The file
that includes itself is refused under any limit, such as 3. -/
theorem include_limit_of_files :
    let source := "include => \x7bouter\x7d\nc => \x7bz\x7d"
    let circle := "include => \x7bloop\x7d"
    CompleteLines 0 [⟨"include", ["outer"]⟩, ⟨"c", ["z"]⟩] (sourceLines 0 source) ∧
    CompleteLines 0 [⟨"include", ["loop"]⟩] (sourceLines 0 circle) ∧
    readAll (includingFiles 2) (sourceLines 0 source) =
      .ok [⟨"a", ["x"]⟩, ⟨"b", ["y"]⟩, ⟨"c", ["z"]⟩] ∧
    (includingFiles 1).StopsAtLimit source "inner" ∧
    (includingFiles 3).StopsAtLimit circle "loop" := by
  intro source circle
  have hsource : CompleteLines 0 [⟨"include", ["outer"]⟩, ⟨"c", ["z"]⟩] (sourceLines 0 source) :=
    .of_found (linesAt 0 ["c => \x7bz\x7d"]) (by decide)
      (.of_found [] (by decide) (.of_idle nofun))
  have houter : CompleteLines 0 [⟨"a", ["x"]⟩, ⟨"include", ["inner"]⟩]
      (sourceLines 0 "a => \x7bx\x7d\ninclude => \x7binner\x7d\n# end") :=
    .of_found (linesAt 0 ["include => \x7binner\x7d", "# end"]) (by decide)
      (.of_found (linesAt 0 ["# end"]) (by decide) (.of_idle (by decide)))
  have hinner : CompleteLines 0 [⟨"b", ["y"]⟩] (sourceLines 0 "\nb => \x7by\x7d\n") :=
    .of_found [] (by decide) (.of_idle nofun)
  have hcircle : CompleteLines 0 [⟨"include", ["loop"]⟩] (sourceLines 0 circle) :=
    .of_found [] (by decide) (.of_idle nofun)
  let toOuter : Link := ⟨[], "outer", [⟨"c", ["z"]⟩], by decide⟩
  let toInner : Link := ⟨[⟨"a", ["x"]⟩], "inner", [], by decide⟩
  let toLoop : Link := ⟨[], "loop", [], by decide⟩
  have hchain : ∀ limit, (includingFiles limit).Leads toOuter.blocks [toOuter, toInner]
      [⟨"b", ["y"]⟩] := fun limit =>
    ⟨rfl, _, ⟨_, rfl, houter⟩, rfl, _, ⟨_, rfl, hinner⟩, rfl⟩
  have hloop : (includingFiles 3).Leads toLoop.blocks [toLoop] toLoop.blocks :=
    ⟨rfl, _, ⟨_, rfl, hcircle⟩, rfl⟩
  refine ⟨hsource, hcircle, ?_, ?_, ?_⟩
  · exact (include_limit_counts_nesting hsource).1 _ _ (hchain 2) (by decide) (by decide)
  · exact (include_limit_counts_nesting hsource).2.1 _ _ (hchain 1) (by decide)
  · exact ((include_limit_counts_nesting hcircle).2.2.1 [] [toLoop] _ rfl hloop nofun).2

end CrossStitch
