import CrossStitch.Proofs.Action.Source

/-! The include limit is only a cut-off. A reader with a smaller limit and one with a larger
limit take the same steps, up to the first include block that the smaller limit refuses. So
either both come to exactly the same, or the first was stopped by its limit and has read the
beginning of what the other reads. A chart that is accepted under one limit describes the same
pattern under every larger one. -/

namespace CrossStitch

/-- The same files, followed so many includes deep. -/
def Includes.withLimit (includes : Includes) (limit : Nat) : Includes :=
  { includes with limit }

@[simp] theorem limit_withLimit (includes : Includes) (limit : Nat) :
    (includes.withLimit limit).limit = limit :=
  rfl

/-- The same colours and files, with includes followed so deep. -/
def ChartContext.withLimit (context : ChartContext) (limit : Nat) : ChartContext :=
  { context with includes := context.includes.withLimit limit }

/-- The fault of an include block that lies too deep. -/
def Fault.IsLimit (fault : Fault) (limit : Nat) : Prop :=
  ∃ trace, fault = .chart (.includeDepthExceeded limit) trace

/-- A reading that comes to the same as another, or that the limit stops before the other has
read on. -/
def CutOff (limit : Nat) (reading other : List Block × Option Fault) : Prop :=
  reading = other ∨
    (∃ fault, reading.2 = some fault ∧ fault.IsLimit limit) ∧ reading.1 <+: other.1

theorem CutOff.cons {limit : Nat} {reading other : List Block × Option Fault}
    (h : CutOff limit reading other) (block : Block) :
    CutOff limit (block :: reading.1, reading.2) (block :: other.1, other.2) := by
  rcases h with rfl | ⟨hfault, hprefix⟩
  · exact .inl rfl
  · exact .inr ⟨hfault, (List.prefix_cons_inj block).mpr hprefix⟩

/-! ### One include block -/

variable (includes : Includes) {d e : Nat}

theorem load_withLimit (limit depth : Nat) (names : List String) :
    (includes.withLimit limit).load depth names = includes.load depth names := by
  induction names with
  | nil => rfl
  | cons name names ih =>
    rw [Includes.load, Includes.load, ih]
    rfl

/-- An include block is followed alike under both limits unless the smaller one refuses it. -/
theorem expand_withLimit (h : d ≤ e) (depth : Nat) (names : List String) :
    (includes.withLimit d).expand depth names =
        .error (.chart (.includeDepthExceeded d) names) ∨
      (includes.withLimit d).expand depth names = (includes.withLimit e).expand depth names := by
  simp only [Includes.expand, limit_withLimit, load_withLimit]
  by_cases hd : depth < d
  · right
    rw [if_pos hd, if_pos (Nat.lt_of_lt_of_le hd h)]
  · left
    rw [if_neg hd]

/-! ### Reading -/

theorem readBlocks_withLimit (h : d ≤ e) (buffer : List SourceLine) :
    CutOff d (readBlocks (includes.withLimit d) buffer)
      (readBlocks (includes.withLimit e) buffer) := by
  induction buffer using reading_induction (includes.withLimit d) with
  | step buffer found expanded =>
    -- a scan does not look at the limit, so both readers find the same
    cases hs : scan buffer with
    | broken kind trace => exact .inl (by rw [readBlocks_of_broken hs, readBlocks_of_broken hs])
    | exhausted => exact .inl (by rw [readBlocks_of_exhausted hs, readBlocks_of_exhausted hs])
    | found block depth rest =>
      by_cases hm : block.mode = includeMode
      · rw [readBlocks_of_include hs hm, readBlocks_of_include hs hm]
        rcases expand_withLimit includes h depth block.lines with hrefused | hsame
        · rw [hrefused]
          exact .inr ⟨⟨_, rfl, block.lines, rfl⟩, List.nil_prefix⟩
        · rw [← hsame]
          cases he : (includes.withLimit d).expand depth block.lines with
          | error fault => exact .inl rfl
          | ok lines => exact expanded block depth rest lines hs hm he
      · rw [readBlocks_of_found hs hm, readBlocks_of_found hs hm]
        exact (found block depth rest hs hm).cons block

theorem readAll_of_cutOff {a b : Includes} {buffer : List SourceLine} {limit : Nat}
    (h : CutOff limit (readBlocks a buffer) (readBlocks b buffer)) :
    readAll a buffer = readAll b buffer ∨
      (∃ fault, readAll a buffer = .error fault ∧ fault.IsLimit limit) ∧
        (readBlocks a buffer).1 <+: (readBlocks b buffer).1 := by
  rcases h with h | ⟨⟨fault, hfault, hlimit⟩, hprefix⟩
  · exact .inl (by rw [readAll, readAll, h])
  · exact .inr ⟨⟨fault, readAll_eq_error_iff.mpr hfault, hlimit⟩, hprefix⟩

/-- What follows on the same result comes to the same. -/
theorem bind_of_cutOff {α β : Type} {x y : Except Fault α} {limit : Nat}
    (h : x = y ∨ ∃ fault, x = .error fault ∧ fault.IsLimit limit) (next : α → Except Fault β) :
    x >>= next = y >>= next ∨ ∃ fault, x >>= next = .error fault ∧ fault.IsLimit limit := by
  rcases h with rfl | ⟨fault, rfl, hlimit⟩
  · exact .inl rfl
  · exact .inr ⟨fault, rfl, hlimit⟩

/-- A larger limit makes no difference unless the smaller one is the reason for failing. Then
what was read before is the beginning of what is read with the larger one. -/
theorem include_limit_cuts_off (context : ChartContext) (source : String) (h : d < e) :
    let small := context.withLimit d
    let large := context.withLimit e
    (readAll small.includes (sourceLines 0 source) = readAll large.includes (sourceLines 0 source) ∨
      (∃ fault, readAll small.includes (sourceLines 0 source) = .error fault ∧ fault.IsLimit d) ∧
        (readBlocks small.includes (sourceLines 0 source)).1 <+:
          (readBlocks large.includes (sourceLines 0 source)).1) ∧
    (parseActions small source = parseActions large source ∨
      ∃ fault, parseActions small source = .error fault ∧ fault.IsLimit d) ∧
    (parsePattern small source = parsePattern large source ∨
      ∃ fault, parsePattern small source = .error fault ∧ fault.IsLimit d) ∧
    ∀ pattern, parsePattern small source = .ok pattern → parsePattern large source = .ok pattern := by
  have hread := readAll_of_cutOff
    (readBlocks_withLimit context.includes h.le (sourceLines 0 source))
  have hactions := bind_of_cutOff (hread.imp_right And.left) (committedActions context.colours)
  have hpattern := bind_of_cutOff hactions patternOfActions
  refine ⟨hread, hactions, hpattern, fun pattern hok => ?_⟩
  rcases hpattern with hsame | ⟨fault, hfault, _⟩
  · exact hsame.symm.trans hok
  · cases hfault.symm.trans hok

/-- One cross, with the colours in the chart and the drawing in a file. -/
def drawnInFile : ChartContext :=
  ⟨.empty, ⟨fun _ => .ok (writtenText drawnCross), none, 0⟩⟩

/-- Under the limit 0 the chart is refused after its first block, and from the limit 1 on it is
accepted. -/
theorem include_limit_of_drawnInFile :
    0 < 1 ∧ 1 < 16 ∧
    (readBlocks (drawnInFile.withLimit 0).includes (sourceLines 0 drawnInFileSource)).1 =
      [⟨"palette", ["a => red"]⟩] ∧
    [⟨"palette", ["a => red"]⟩] <+:
      (readBlocks (drawnInFile.withLimit 1).includes (sourceLines 0 drawnInFileSource)).1 ∧
    ∃ pattern, parsePattern (drawnInFile.withLimit 1) drawnInFileSource = .ok pattern ∧
      parsePattern (drawnInFile.withLimit 16) drawnInFileSource = .ok pattern := by
  have hpalette : scan (sourceLines 0 drawnInFileSource) =
      .found ⟨"palette", ["a => red"]⟩ 0 (linesAt 0 ["include => \x7bcross\x7d"]) := by decide
  have hinclude : scan (linesAt 0 ["include => \x7bcross\x7d"]) =
      .found ⟨"include", ["cross"]⟩ 0 [] := by decide
  have hrefused : readBlocks (drawnInFile.withLimit 0).includes (sourceLines 0 drawnInFileSource) =
      ([⟨"palette", ["a => red"]⟩], some (.chart (.includeDepthExceeded 0) ["cross"])) := by
    rw [readBlocks_of_found hpalette (by decide), readBlocks_of_include hinclude rfl]
    rfl
  have hread : readBlocks (drawnInFile.withLimit 1).includes (sourceLines 0 drawnInFileSource) =
      (⟨"palette", ["a => red"]⟩ :: drawnCross.map WrittenBlock.block, none) :=
    readBlocks_drawnInFile rfl (by decide)
  have hmap : (committedActions .empty (⟨"palette", ["a => red"]⟩ :: drawnCross.map WrittenBlock.block)
      >>= patternOfActions).map Pattern.size = .ok 1 := by
    decide +kernel
  obtain ⟨pattern, hpattern, _⟩ := map_eq_ok_iff.mp hmap
  have hsmall : parsePattern (drawnInFile.withLimit 1) drawnInFileSource = .ok pattern := by
    rw [parsePattern_eq_bind, parseActions_eq_bind, readAll_eq_ok_iff.mpr hread]
    exact hpattern
  refine ⟨by decide, by decide, congrArg Prod.fst hrefused, ?_, pattern, hsmall,
    (include_limit_cuts_off drawnInFile drawnInFileSource (by decide)).2.2.2 pattern hsmall⟩
  rcases (include_limit_cuts_off drawnInFile drawnInFileSource (d := 0) (e := 1)
    (by decide)).1 with hsame | ⟨_, hprefix⟩
  · rw [readAll_eq_error_iff.mpr (congrArg Prod.snd hrefused),
      readAll_eq_ok_iff.mpr hread] at hsame
    cases hsame
  · rwa [hrefused] at hprefix

end CrossStitch
