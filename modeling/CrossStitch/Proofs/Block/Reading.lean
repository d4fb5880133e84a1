import CrossStitch.Block.Reader

/-! Reading as a recursion on the buffer. From a buffer the reader either stops,
hands out a block and goes on with what follows it, or follows an include block
and goes on with the lines spliced in. Both functions of the reader are given here
by that one choice, together with the induction that goes with it; later proofs
need neither the order by which reading ends nor what the functions carry along
for it. -/

namespace CrossStitch

/-- The outcome of following an include block opened at `depth`. -/
def Includes.expand (includes : Includes) (depth : Nat) (names : List String) :
    Except Fault (List SourceLine) :=
  if depth < includes.limit then
    match includes.load (depth + 1) names with
    | .error (path, cause) => .error (.unreadableInclude path cause names)
    | .ok lines => .ok lines
  else .error (.chart (.includeDepthExceeded includes.limit) names)

theorem Includes.expand_eq_ok {includes : Includes} {depth : Nat} {names : List String}
    {lines : List SourceLine} (h : includes.expand depth names = .ok lines) :
    depth < includes.limit ∧ includes.load (depth + 1) names = .ok lines := by
  unfold expand at h
  split at h
  next hd =>
    split at h
    · cases h
    next hload =>
      cases h
      exact ⟨hd, hload⟩
  · cases h

/-- A loaded line stands in one of the named files. -/
theorem Includes.mem_load {includes : Includes} {depth : Nat} {names : List String}
    {lines : List SourceLine} (h : includes.load depth names = .ok lines) {line : SourceLine}
    (hl : line ∈ lines) :
    ∃ name ∈ names, ∃ text, includes.files (includes.path name) = .ok text ∧
      line ∈ sourceLines depth text := by
  induction names generalizing lines with
  | nil =>
    cases h
    cases hl
  | cons name names ih =>
    rw [load] at h
    split at h
    · cases h
    next text htext =>
      split at h
      · cases h
      next tail htail =>
        cases h
        rcases List.mem_append.mp hl with hl | hl
        · exact ⟨name, List.mem_cons_self, text, htext, hl⟩
        · obtain ⟨other, hother, found⟩ := ih htail hl
          exact ⟨other, List.mem_cons_of_mem name hother, found⟩

/-! ### One step -/

theorem nextBlock_of_broken {includes : Includes} {buffer : List SourceLine} {kind : ChartFault}
    {trace : List String} (h : scan buffer = .broken kind trace) :
    nextBlock includes buffer = (.error (.chart kind trace), buffer) := by
  rw [nextBlock]
  split <;> simp_all

theorem nextBlock_of_exhausted {includes : Includes} {buffer : List SourceLine}
    (h : scan buffer = .exhausted) : nextBlock includes buffer = (.ok none, []) := by
  rw [nextBlock]
  split <;> simp_all

theorem nextBlock_of_found {includes : Includes} {buffer rest : List SourceLine} {block : Block}
    {depth : Nat} (h : scan buffer = .found block depth rest) (hm : block.mode ≠ includeMode) :
    nextBlock includes buffer = (.ok (some block), rest) := by
  rw [nextBlock]
  split <;> simp_all

theorem nextBlock_of_include {includes : Includes} {buffer rest : List SourceLine} {block : Block}
    {depth : Nat} (h : scan buffer = .found block depth rest) (hm : block.mode = includeMode) :
    nextBlock includes buffer =
      match includes.expand depth block.lines with
      | .error fault => (.error fault, rest)
      | .ok lines => nextBlock includes (lines ++ rest) := by
  rw [nextBlock]
  split
  next h' => simp [h] at h'
  next h' => simp [h] at h'
  next h' =>
    rw [h] at h'
    cases h'
    rw [if_pos hm, Includes.expand]
    split
    · split <;> simp_all
    · rfl

/-! ### Reading all -/

/-- Only what the next block is matters for what is read. -/
theorem readBlocks_congr {includes : Includes} {a b : List SourceLine}
    (h : nextBlock includes a = nextBlock includes b) :
    readBlocks includes a = readBlocks includes b := by
  rw [readBlocks, readBlocks]
  split <;> split <;> simp_all

theorem readBlocks_of_broken {includes : Includes} {buffer : List SourceLine} {kind : ChartFault}
    {trace : List String} (h : scan buffer = .broken kind trace) :
    readBlocks includes buffer = ([], some (.chart kind trace)) := by
  rw [readBlocks]
  split <;> simp_all [nextBlock_of_broken h]

theorem readBlocks_of_exhausted {includes : Includes} {buffer : List SourceLine}
    (h : scan buffer = .exhausted) : readBlocks includes buffer = ([], none) := by
  rw [readBlocks]
  split <;> simp_all [nextBlock_of_exhausted h]

theorem readBlocks_of_found {includes : Includes} {buffer rest : List SourceLine} {block : Block}
    {depth : Nat} (h : scan buffer = .found block depth rest) (hm : block.mode ≠ includeMode) :
    readBlocks includes buffer =
      (block :: (readBlocks includes rest).1, (readBlocks includes rest).2) := by
  rw [readBlocks]
  split <;> simp_all [nextBlock_of_found h hm]

theorem readBlocks_of_include {includes : Includes} {buffer rest : List SourceLine} {block : Block}
    {depth : Nat} (h : scan buffer = .found block depth rest) (hm : block.mode = includeMode) :
    readBlocks includes buffer =
      match includes.expand depth block.lines with
      | .error fault => ([], some fault)
      | .ok lines => readBlocks includes (lines ++ rest) := by
  have hn : nextBlock includes buffer = _ := nextBlock_of_include h hm
  split
  next he =>
    rw [readBlocks]
    split <;> simp_all
  next he =>
    rw [he] at hn
    exact readBlocks_congr hn

/-- Induction along the reader: a property holds of a buffer if it holds whenever
it holds of the buffer that the reader goes on with. -/
theorem reading_induction {P : List SourceLine → Prop} (includes : Includes)
    (step : ∀ buffer,
      (∀ block depth rest, scan buffer = .found block depth rest →
        block.mode ≠ includeMode → P rest) →
      (∀ block depth rest lines, scan buffer = .found block depth rest →
        block.mode = includeMode → includes.expand depth block.lines = .ok lines →
        P (lines ++ rest)) →
      P buffer)
    (buffer : List SourceLine) : P buffer := by
  refine step buffer ?_ ?_
  · intro block depth rest h _
    obtain ⟨before, line, middle, hb, _⟩ := scan_found h
    have hless : (tally includes.limit rest).Less (tally includes.limit buffer) := by
      rw [hb]
      exact tally_rest_less _ before middle rest line
    exact reading_induction includes step rest
  · intro block depth rest lines h _ he
    obtain ⟨before, line, middle, hb, hl⟩ := scan_found h
    obtain ⟨hd, hload⟩ := Includes.expand_eq_ok he
    have hless : (tally includes.limit (lines ++ rest)).Less (tally includes.limit buffer) := by
      rw [hb]
      exact tally_splice_less before middle rest lines line (hl ▸ hd)
        (hl ▸ Includes.load_depth hload)
    exact reading_induction includes step (lines ++ rest)
termination_by tally includes.limit buffer
decreasing_by
  · exact hless
  · exact hless

theorem readAll_eq_ok_iff {includes : Includes} {buffer : List SourceLine} {blocks : List Block} :
    readAll includes buffer = .ok blocks ↔ readBlocks includes buffer = (blocks, none) := by
  unfold readAll
  split <;> simp_all

theorem readAll_eq_error_iff {includes : Includes} {buffer : List SourceLine} {fault : Fault} :
    readAll includes buffer = .error fault ↔ (readBlocks includes buffer).2 = some fault := by
  unfold readAll
  split <;> simp_all

end CrossStitch
