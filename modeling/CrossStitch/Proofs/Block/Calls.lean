import CrossStitch.Proofs.Block.Run

/-! Calling the reader again. A reader can be asked for the next block after a call has failed.
A fault of the block grammar is still in the buffer and is found again by every later call. An
include block that cannot be followed has been taken off the buffer, and the later calls read on
behind it as if its files were not there. Once there are no more blocks there never will be. -/

namespace CrossStitch

/-- The faults of the block grammar. -/
def ChartFault.ofGrammar : ChartFault → Bool
  | .invalidStartBlock | .singleLineBlockInvalid | .emptyBlock | .unclosedBlock _
  | .expectedStartOfBlock => true
  | _ => false

def Fault.ofGrammar : Fault → Bool
  | .chart kind _ => kind.ofGrammar
  | _ => false

/-- The faults of include blocks that cannot be followed. -/
def Fault.ofInclude : Fault → Bool
  | .unreadableInclude .. => true
  | .chart (.includeDepthExceeded _) _ => true
  | _ => false

/-! ### Faults -/

theorem ofGrammar_of_mem_lineFaults : ∀ kind ∈ lineFaults, kind.ofGrammar = true := by decide

theorem ofGrammar_of_scan {lines : List SourceLine} {kind : ChartFault} {trace : List String}
    (h : scan lines = .broken kind trace) : (Fault.chart kind trace).ofGrammar = true := by
  rcases scan_eq_broken_iff.mp h with ⟨_, _, _, hfaulty, _⟩ | ⟨_, rfl, _⟩
  · exact ofGrammar_of_mem_lineFaults kind hfaulty.kind_mem
  · rfl

theorem Fault.ofInclude_eq_false {fault : Fault} (h : fault.ofGrammar = true) :
    fault.ofInclude = false := by
  cases fault with
  | chart kind trace => cases kind <;> first | rfl | cases h
  | _ => cases h

/-! ### Calls -/

namespace Includes

/-- What the buffer holds after so many calls for the next block. -/
def bufferAfterCalls (includes : Includes) : Nat → List SourceLine → List SourceLine
  | 0, buffer => buffer
  | n + 1, buffer => includes.bufferAfterCalls n (nextBlock includes buffer).2

/-- The answer to a call for the next block, after so many calls before it. -/
def answerAfter (includes : Includes) (n : Nat) (buffer : List SourceLine) :
    Except Fault (Option Block) :=
  (nextBlock includes (includes.bufferAfterCalls n buffer)).1

/-- Why an include block at a depth is not followed. It lies too deep, or it names a file that
cannot be read, be it after others that can. -/
inductive Refuses (includes : Includes) (depth : Nat) (names : List String) : Fault → Prop
  | tooDeep (h : includes.limit ≤ depth) :
    Refuses includes depth names (.chart (.includeDepthExceeded includes.limit) names)
  | unreadable {before after : List String} {name : String} {cause : FileFault}
    (h : depth < includes.limit) (hnames : names = before ++ name :: after)
    (hbefore : ∀ earlier ∈ before, ∃ text, includes.files (includes.path earlier) = .ok text)
    (hname : includes.files (includes.path name) = .error cause) :
    Refuses includes depth names (.unreadableInclude (includes.path name) cause names)

/-- What a call comes to from the buffer in which it finds its answer: the answer, and the buffer
that it leaves. -/
inductive Answers (includes : Includes) :
    List SourceLine → Except Fault (Option Block) → List SourceLine → Prop
  | handed {used rest : List SourceLine} {block : Block} {depth : Nat}
    (hread : block.ReadFrom used depth) (hmode : block.mode ≠ includeMode) :
    Answers includes (used ++ rest) (.ok (some block)) rest
  | ended {reached : List SourceLine} (h : ∀ line ∈ reached, line.isIdle = true) :
    Answers includes reached (.ok none) []
  | broken {reached : List SourceLine} {kind : ChartFault} {trace : List String}
    (h : scan reached = .broken kind trace) :
    Answers includes reached (.error (.chart kind trace)) reached
  | refused {used rest : List SourceLine} {names : List String} {depth : Nat} {fault : Fault}
    (hread : Block.ReadFrom ⟨includeMode, names⟩ used depth)
    (hrefuses : includes.Refuses depth names fault) :
    Answers includes (used ++ rest) (.error fault) rest

variable {includes : Includes} {buffer reached left : List SourceLine} {names : List String}
  {depth : Nat} {fault : Fault}

/-! ### One call -/

theorem load_eq_error {path : String} {cause : FileFault}
    (h : includes.load depth names = .error (path, cause)) :
    ∃ before name after, names = before ++ name :: after ∧
      (∀ earlier ∈ before, ∃ text, includes.files (includes.path earlier) = .ok text) ∧
      includes.files (includes.path name) = .error cause ∧ path = includes.path name := by
  induction names with
  | nil => cases h
  | cons name names ih =>
    rw [load] at h
    split at h
    next hname =>
      cases h
      exact ⟨[], name, names, rfl, List.forall_mem_nil _, hname, rfl⟩
    next text htext =>
      split at h
      next hload =>
        cases h
        obtain ⟨before, later, after, rfl, hbefore, hlater, hpath⟩ := ih hload
        exact ⟨name :: before, later, after, rfl,
          List.forall_mem_cons.mpr ⟨⟨text, htext⟩, hbefore⟩, hlater, hpath⟩
      · cases h

theorem refuses_of_expand (h : includes.expand depth names = .error fault) :
    includes.Refuses depth names fault := by
  unfold expand at h
  split at h
  next hlimit =>
    split at h
    next hload =>
      cases h
      obtain ⟨before, name, after, hnames, hbefore, hname, rfl⟩ := load_eq_error hload
      exact .unreadable hlimit hnames hbefore hname
    · cases h
  next hlimit =>
    cases h
    exact .tooDeep (Nat.le_of_not_lt hlimit)

theorem Refuses.ofInclude (h : includes.Refuses depth names fault) : fault.ofInclude = true := by
  cases h <;> rfl

/-- A call follows include blocks up to a buffer in which it finds its answer. -/
theorem exists_answers (includes : Includes) (buffer : List SourceLine) :
    ∃ followed reached, includes.Runs buffer [] followed reached ∧
      includes.Answers reached (nextBlock includes buffer).1 (nextBlock includes buffer).2 := by
  obtain ⟨followed, reached, hrun, hanswer, hleft⟩ := includes.exists_run_of_nextBlock buffer
  refine ⟨followed, reached, hrun, ?_⟩
  rw [← hleft]
  generalize (nextBlock includes buffer).1 = answer at hanswer
  unfold pass at hanswer ⊢
  split at hanswer
  next hs =>
    cases hanswer
    exact .broken hs
  next hs =>
    cases hanswer
    exact .ended (scan_eq_exhausted_iff.mp hs)
  next block depth rest hs =>
    obtain ⟨used, rfl, hread⟩ := scan_eq_found_iff.mp hs
    split at hanswer
    next hmode =>
      split at hanswer
      next fault he =>
        cases hanswer
        simp only [if_pos hmode]
        exact .refused (hmode ▸ hread) (refuses_of_expand he)
      · cases hanswer
    next hmode =>
      cases hanswer
      simp only [if_neg hmode]
      exact .handed hread hmode

/-! ### Later calls -/

theorem bufferAfterCalls_add (includes : Includes) (m n : Nat) (buffer : List SourceLine) :
    includes.bufferAfterCalls (m + n) buffer =
      includes.bufferAfterCalls n (includes.bufferAfterCalls m buffer) := by
  induction m generalizing buffer with
  | zero => rw [Nat.zero_add, bufferAfterCalls]
  | succ m ih => rw [Nat.succ_add, bufferAfterCalls, bufferAfterCalls, ih]

theorem answerAfter_add (includes : Includes) (m n : Nat) (buffer : List SourceLine) :
    includes.answerAfter (m + n) buffer =
      includes.answerAfter n (includes.bufferAfterCalls m buffer) := by
  rw [answerAfter, bufferAfterCalls_add, answerAfter]

/-- The calls after one are those of a reader with the buffer that it leaves. -/
theorem answerAfter_later (includes : Includes) (k n : Nat) (buffer : List SourceLine) :
    includes.answerAfter (k + 1 + n) buffer =
      includes.answerAfter n (nextBlock includes (includes.bufferAfterCalls k buffer)).2 := by
  rw [answerAfter_add, bufferAfterCalls_add]
  rfl

/-- An answer that is found again in the buffer that its call leaves is given by all later calls. -/
theorem answerAfter_of_repeated {answer : Except Fault (Option Block)} {k : Nat}
    (h : includes.answerAfter k buffer = answer)
    (hleft : (nextBlock includes (includes.bufferAfterCalls k buffer)).2 = left)
    (hagain : nextBlock includes left = (answer, left)) :
    ∀ n, k ≤ n → includes.answerAfter n buffer = answer := by
  intro n hn
  rcases Nat.eq_or_lt_of_le hn with rfl | hlt
  · exact h
  obtain ⟨m, rfl⟩ := Nat.exists_eq_add_of_le hlt
  have hbuffer : includes.bufferAfterCalls m left = left := by
    induction m with
    | zero => rfl
    | succ m ih => rw [bufferAfterCalls, hagain, ih (by omega) (by omega)]
  rw [answerAfter_later, hleft, answerAfter, hbuffer, hagain]

theorem ofGrammar_or_ofInclude {k : Nat} (h : includes.answerAfter k buffer = .error fault) :
    fault.ofGrammar = true ∨ fault.ofInclude = true := by
  obtain ⟨_, _, _, hanswers⟩ := includes.exists_answers (includes.bufferAfterCalls k buffer)
  rw [← answerAfter, h] at hanswers
  cases hanswers with
  | broken hs => exact .inl (ofGrammar_of_scan hs)
  | refused _ hrefuses => exact .inr hrefuses.ofInclude

/-- A fault of the block grammar stays. -/
theorem answerAfter_of_ofGrammar {k : Nat} (h : includes.answerAfter k buffer = .error fault)
    (hf : fault.ofGrammar = true) : ∀ n, k ≤ n → includes.answerAfter n buffer = .error fault := by
  obtain ⟨_, _, _, hanswers⟩ := includes.exists_answers (includes.bufferAfterCalls k buffer)
  rw [← answerAfter, h] at hanswers
  generalize hleft : (nextBlock includes (includes.bufferAfterCalls k buffer)).2 = left at hanswers
  cases hanswers with
  | broken hs => exact answerAfter_of_repeated h hleft (nextBlock_of_broken hs)
  | refused _ hrefuses => exact absurd hrefuses.ofInclude (by simp [Fault.ofInclude_eq_false hf])

/-- Behind an include block that is refused the reader goes on with the lines after it. -/
theorem answerAfter_of_ofInclude {k : Nat} (h : includes.answerAfter k buffer = .error fault)
    (hf : fault.ofInclude = true) :
    ∃ followed used names depth rest,
      includes.Runs (includes.bufferAfterCalls k buffer) [] followed (used ++ rest) ∧
      Block.ReadFrom ⟨includeMode, names⟩ used depth ∧ includes.Refuses depth names fault ∧
      ∀ n, includes.answerAfter (k + 1 + n) buffer = includes.answerAfter n rest := by
  obtain ⟨followed, _, hrun, hanswers⟩ :=
    includes.exists_answers (includes.bufferAfterCalls k buffer)
  rw [← answerAfter, h] at hanswers
  have hlater := fun n => includes.answerAfter_later k n buffer
  generalize (nextBlock includes (includes.bufferAfterCalls k buffer)).2 = left at hanswers hlater
  cases hanswers with
  | broken hs => exact absurd hf (by simp [Fault.ofInclude_eq_false (ofGrammar_of_scan hs)])
  | refused hread hrefuses => exact ⟨followed, _, _, _, left, hrun, hread, hrefuses, hlater⟩

/-- The end stays the end. -/
theorem answerAfter_of_none {k : Nat} (h : includes.answerAfter k buffer = .ok none) :
    ∀ n, k ≤ n → includes.answerAfter n buffer = .ok none := by
  obtain ⟨_, _, _, hanswers⟩ := includes.exists_answers (includes.bufferAfterCalls k buffer)
  rw [← answerAfter, h] at hanswers
  generalize hleft : (nextBlock includes (includes.bufferAfterCalls k buffer)).2 = left at hanswers
  cases hanswers with
  | ended => exact answerAfter_of_repeated h hleft (nextBlock_of_exhausted scan_nil)

end Includes

/-- What later calls come to after a call that hands out no block. A fault of the block grammar
stays, with its trace. Behind an include block that was refused the reader goes on as one that
has only the lines after it. The end stays the end. -/
theorem calling_again (includes : Includes) (source : String) (k : Nat) :
    let lines := sourceLines 0 source
    (∀ fault, includes.answerAfter k lines = .error fault →
      fault.ofGrammar = true ∨ fault.ofInclude = true) ∧
    (∀ fault, includes.answerAfter k lines = .error fault → fault.ofGrammar = true →
      ∀ n, k ≤ n → includes.answerAfter n lines = .error fault) ∧
    (∀ fault, includes.answerAfter k lines = .error fault → fault.ofInclude = true →
      ∃ followed used names depth rest,
        includes.Runs (includes.bufferAfterCalls k lines) [] followed (used ++ rest) ∧
        Block.ReadFrom ⟨includeMode, names⟩ used depth ∧ includes.Refuses depth names fault ∧
        ∀ n, includes.answerAfter (k + 1 + n) lines = includes.answerAfter n rest) ∧
    (includes.answerAfter k lines = .ok none →
      ∀ n, k ≤ n → includes.answerAfter n lines = .ok none) :=
  ⟨fun _ h => Includes.ofGrammar_or_ofInclude h,
    fun _ h hf => Includes.answerAfter_of_ofGrammar h hf,
    fun _ h hf => Includes.answerAfter_of_ofInclude h hf,
    fun h => Includes.answerAfter_of_none h⟩

/-- One file can be read, and no other. -/
def oneFile : Includes where
  files path := if path = "good" then .ok "a => \x7bx\x7d" else .error .notFound
  root := none
  limit := 1

/-- The first call fails for the second of two files. Nothing of the first file is read by the
later calls, of which the third and all after it fail for the last line. -/
theorem calling_again_behind_include :
    let lines := sourceLines 0 "include => \x7b\n good\n bad\n\x7d\nmode => \x7bxstitch\x7d\n end"
    oneFile.answerAfter 0 lines = .error (.unreadableInclude "bad" .notFound ["good", "bad"]) ∧
    (∃ rest, ∀ n, oneFile.answerAfter (0 + 1 + n) lines = oneFile.answerAfter n rest) ∧
    oneFile.answerAfter 1 lines = .ok (some ⟨"mode", ["xstitch"]⟩) ∧
    ∀ n, 2 ≤ n →
      oneFile.answerAfter n lines = .error (.chart .expectedStartOfBlock [" end"]) := by
  intro lines
  have hinclude : scan lines =
      .found ⟨"include", ["good", "bad"]⟩ 0 (linesAt 0 ["mode => \x7bxstitch\x7d", " end"]) := by
    decide
  have hexpand : oneFile.expand 0 ["good", "bad"] =
      .error (.unreadableInclude "bad" .notFound ["good", "bad"]) := by cbv
  have hmode : scan (linesAt 0 ["mode => \x7bxstitch\x7d", " end"]) =
      .found ⟨"mode", ["xstitch"]⟩ 0 (linesAt 0 [" end"]) := by decide
  have hend : scan (linesAt 0 [" end"]) = .broken .expectedStartOfBlock [" end"] := by decide
  have hfirst : nextBlock oneFile lines =
      (.error (.unreadableInclude "bad" .notFound ["good", "bad"]),
        linesAt 0 ["mode => \x7bxstitch\x7d", " end"]) := by
    rw [nextBlock_of_include hinclude rfl, hexpand]
  have hsecond : nextBlock oneFile (linesAt 0 ["mode => \x7bxstitch\x7d", " end"]) =
      (.ok (some ⟨"mode", ["xstitch"]⟩), linesAt 0 [" end"]) := nextBlock_of_found hmode (by decide)
  have hthird : nextBlock oneFile (linesAt 0 [" end"]) =
      (.error (.chart .expectedStartOfBlock [" end"]), linesAt 0 [" end"]) :=
    nextBlock_of_broken hend
  have h0 : oneFile.answerAfter 0 lines =
      .error (.unreadableInclude "bad" .notFound ["good", "bad"]) := congrArg Prod.fst hfirst
  have h2 : oneFile.answerAfter 2 lines = .error (.chart .expectedStartOfBlock [" end"]) := by
    simp only [Includes.answerAfter, Includes.bufferAfterCalls, hfirst, hsecond, hthird]
  refine ⟨h0, ?_, ?_, (calling_again oneFile _ 2).2.1 _ h2 rfl⟩
  · obtain ⟨_, _, _, _, rest, _, _, _, hlater⟩ := (calling_again oneFile _ 0).2.2.1 _ h0 rfl
    exact ⟨rest, hlater⟩
  · simp only [Includes.answerAfter, Includes.bufferAfterCalls, hfirst, hsecond]

end CrossStitch
