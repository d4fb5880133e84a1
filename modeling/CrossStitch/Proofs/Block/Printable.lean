import CrossStitch.Proofs.Block.Writing
import Mathlib.Data.List.Basic
import Mathlib.Data.List.TakeWhile
import Mathlib.Tactic.Set

/-! The blocks of charts are the blocks that can be written. What was written is
read back, and conversely every block that the reader hands out can be written,
whatever the source and the included files hold. -/

namespace CrossStitch

/-- Every line was cut off at a line feed. -/
def Unbroken (lines : List SourceLine) : Prop := ∀ line ∈ lines, '\n' ∉ line.text.toList

theorem unbroken_sourceLines (depth : Nat) (text : String) : Unbroken (sourceLines depth text) := by
  intro line hl
  obtain ⟨l, hm, rfl⟩ := List.mem_map.mp hl
  exact Text.not_mem_of_mem_lines hm

theorem unbroken_load {includes : Includes} {depth : Nat} {names : List String}
    {lines : List SourceLine} (h : includes.load depth names = .ok lines) : Unbroken lines := by
  intro line hl
  obtain ⟨_, _, text, _, htext⟩ := Includes.mem_load h hl
  exact unbroken_sourceLines depth text line htext

/-- A line that is not idle starts with a character that is neither blank nor the
comment mark. -/
theorem content_start {line : SourceLine} (h : line.isIdle = false) :
    ∃ c rest, line.content = c :: rest ∧ Text.isBlank c = false ∧ c ≠ '#' := by
  cases hc : line.content with
  | nil => simp [SourceLine.isIdle, hc] at h
  | cons c rest =>
    refine ⟨c, rest, rfl, ?_, ?_⟩
    · exact (Text.trimmed_trim line.text.toList).1 c (by rw [← SourceLine.content, hc]; rfl)
    · simpa [SourceLine.isIdle, hc] using h

theorem not_mem_content {line : SourceLine} (h : '\n' ∉ line.text.toList) :
    '\n' ∉ line.content := fun hm =>
  h ((Text.trim_isInfix _).subset hm)

/-- What stands before the first opening mark of a line is a mode. -/
theorem isMode_of_cut {c : Char} {text mode after : List Char} (hc : Text.isBlank c = false)
    (hne : c ≠ '#') (hn : '\n' ∉ c :: text) (he : c :: text = mode ++ openingMark ++ after)
    (hm : ¬ openingMark <:+: mode) : IsMode mode := by
  cases mode with
  | nil =>
    -- the line would start with the blank of the mark
    cases he
    exact absurd hc (by decide)
  | cons d mode =>
    cases he
    refine ⟨List.cons_ne_nil _ _, ?_, hm, ?_⟩
    · intro hmem
      exact hn (List.mem_append_left after (List.mem_append_left openingMark hmem))
    · rintro d ⟨⟩
      exact ⟨hc, hne⟩

theorem opening_eq_below {text : List Char} {mode : String} (h : opening text = .below mode) :
    ∃ after, text = mode.toList ++ openingMark ++ after ∧ ¬ openingMark <:+: mode.toList := by
  unfold opening at h
  split at h
  · split at h
    next m after hp =>
      cases h
      obtain ⟨he, hm, _⟩ := (Text.pair?_eq_some_iff (by decide)).mp hp
      exact ⟨after, by simpa using he, fun hi =>
        hm (List.infix_append_of_infix_left (by simpa using hi))⟩
    · cases h
  · split at h
    · split at h
      · cases h
      · split at h
        · cases h
        · split at h <;> cases h
    · cases h

theorem opening_eq_whole {text : List Char} {block : Block} (h : opening text = .whole block) :
    ∃ mode body, block = ⟨String.ofList mode, [String.ofList (Text.trim body)]⟩ ∧
      text = mode ++ openingMark ++ (body ++ ['}']) ∧ ¬ openingMark <:+: mode ∧
        ¬ openingMark <:+: body ∧ Text.trim body ≠ [] := by
  unfold opening at h
  split at h
  · split at h <;> cases h
  · split at h
    next hlast =>
      split at h
      · cases h
      next mode body hcut =>
        obtain ⟨he, hm⟩ := (Text.cut?_eq_some_iff (by decide)).mp hcut
        split at h
        · cases h
        next ho =>
          split at h
          · cases h
          next hbody =>
            cases h
            refine ⟨mode, body, rfl, ?_, ?_, ?_, by simpa using hbody⟩
            · rw [← List.append_assoc, ← he, List.dropLast_append_getLast? _ hlast]
            · exact fun hi => hm (List.infix_append_of_infix_left hi)
            · exact (Text.occurs_eq_false_iff (by decide)).mp (by simpa using ho)
    · cases h

theorem isBodyLine_content {line : SourceLine} (hn : '\n' ∉ line.text.toList)
    (hi : line.isIdle = false) : IsBodyLine line.content := by
  obtain ⟨c, rest, hc, _⟩ := content_start hi
  exact ⟨by simp [hc], not_mem_content hn, Text.trimmed_trim _⟩

/-- The lines of a body over several lines. -/
theorem mem_bodyLines {body : List SourceLine} (hn : Unbroken body)
    (hc : ∀ line ∈ body, line.closes = false) {text : String} (h : text ∈ bodyLines body) :
    IsBodyLine text.toList ∧ text.toList.head? ≠ some '#' ∧ text ≠ closingLine := by
  obtain ⟨line, hl, rfl⟩ := List.mem_map.mp h
  obtain ⟨hl, hi⟩ := List.mem_filter.mp hl
  have hi : line.isIdle = false := by simpa using hi
  obtain ⟨c, rest, hcontent, _, hne⟩ := content_start hi
  rw [String.toList_ofList]
  refine ⟨isBodyLine_content (hn line hl) hi, by simpa [hcontent] using hne, ?_⟩
  intro he
  have hclose := hc line hl
  rw [SourceLine.closes, ← @String.toList_ofList line.content, he] at hclose
  exact absurd hclose (by decide)

theorem printable_of_scanBody {mode : String} (hm : IsMode mode.toList)
    {depth d : Nat} {before lines rest : List SourceLine} (hn : Unbroken lines) {block : Block}
    (h : scanBody mode depth before lines = .found block d rest) :
    block.Plain ∧ Form.long.Suits block := by
  simp only [scanBody] at h
  split at h
  · cases h
  · split at h
    · cases h
    next hbody =>
      cases h
      have hb : Unbroken (lines.takeWhile fun line => !line.closes) := fun line hl =>
        hn line ((List.takeWhile_subset _) hl)
      have hc : ∀ line ∈ lines.takeWhile (fun line => !line.closes), line.closes = false :=
        fun line hl => by simpa using List.mem_takeWhile_imp hl
      refine ⟨⟨hm, fun text ht => (mem_bodyLines hb hc ht).1⟩, by simpa using hbody, ?_⟩
      exact fun text ht => (mem_bodyLines hb hc ht).2

/-- A block that is found can be written in the form it was found in. -/
theorem printable_of_scan {lines rest : List SourceLine} (hn : Unbroken lines) {block : Block}
    {depth : Nat} (h : scan lines = .found block depth rest) :
    block.Plain ∧ ∃ form : Form, form.Suits block := by
  simp only [scan] at h
  split at h
  · cases h
  next line after hd =>
    have hl : line :: after <:+ lines := hd ▸ List.dropWhile_suffix _
    have hline : '\n' ∉ line.content :=
      not_mem_content (hn line (hl.subset List.mem_cons_self))
    have hi : line.isIdle = false := by
      have := List.head?_dropWhile_not SourceLine.isIdle lines
      simpa [hd] using this
    obtain ⟨c, text, hc, hblank, hne⟩ := content_start hi
    split at h
    next mode ho =>
      obtain ⟨tail, ht, hm⟩ := opening_eq_below ho
      have hmode : IsMode mode.toList :=
        isMode_of_cut hblank hne (hc ▸ hline) (hc ▸ ht) hm
      have hafter : Unbroken after := fun l h =>
        hn l (hl.subset (List.mem_cons_of_mem line h))
      obtain ⟨hp, hs⟩ := printable_of_scanBody hmode hafter h
      exact ⟨hp, .long, hs⟩
    next whole ho =>
      cases h
      obtain ⟨mode, body, rfl, ht, hm, hb, hbody⟩ := opening_eq_whole ho
      have hmode : IsMode mode := isMode_of_cut hblank hne (hc ▸ hline) (hc ▸ ht) hm
      have hbn : '\n' ∉ Text.trim body := fun hmem =>
        hline (by rw [ht]; simp [(Text.trim_isInfix body).subset hmem])
      refine ⟨⟨by simpa using hmode, ?_⟩, .short, _, rfl, ?_⟩
      · intro text ht
        rw [List.mem_singleton] at ht
        subst ht
        simpa using ⟨hbody, hbn, Text.trimmed_trim body⟩
      · rw [String.toList_ofList]
        exact fun hi => hb (hi.trans (Text.trim_isInfix body))
    · cases h

/-- Every block read can be written, and the reader keeps to unbroken lines. -/
theorem printable_of_readBlocks (includes : Includes) (buffer : List SourceLine) :
    Unbroken buffer → ∀ block ∈ (readBlocks includes buffer).1, block.Printable := by
  induction buffer using reading_induction includes with
  | step buffer found expanded =>
    intro hn
    cases hs : scan buffer with
    | broken kind trace => simp [readBlocks_of_broken hs]
    | exhausted => simp [readBlocks_of_exhausted hs]
    | found block depth rest =>
      obtain ⟨before, line, middle, hb, _⟩ := scan_found hs
      have hrest : Unbroken rest := fun l hl => hn l (by rw [hb]; simp [hl])
      by_cases hm : block.mode = includeMode
      · rw [readBlocks_of_include hs hm]
        split
        · simp
        next lines he =>
          refine expanded block depth rest lines hs hm he ?_
          intro l hl
          rcases List.mem_append.mp hl with hl | hl
          · exact unbroken_load (Includes.expand_eq_ok he).2 l hl
          · exact hrest l hl
      · rw [readBlocks_of_found hs hm]
        intro b hb
        rcases List.mem_cons.mp hb with rfl | hb
        · obtain ⟨hp, hf⟩ := printable_of_scan hn hs
          exact ⟨hp, hm, hf⟩
        · exact found block depth rest hs hm hrest b hb

/-- Charts and lists of blocks that can be written: such blocks are read back from
any forms they are written in, and nothing else is ever read. -/
theorem readAll_writtenText_and_printable (includes : Includes) :
    (∀ blocks : List WrittenBlock,
      readAll includes (sourceLines 0 (writtenText blocks)) =
        .ok (blocks.map WrittenBlock.block)) ∧
    ∀ (source : String) (blocks : List Block),
      readAll includes (sourceLines 0 source) = .ok blocks →
        ∀ block ∈ blocks, block.Printable := by
  constructor
  · exact readAll_writtenText includes
  · intro source blocks h
    have hp := printable_of_readBlocks includes _ (unbroken_sourceLines 0 source)
    rwa [readAll_eq_ok_iff.mp h] at hp

/-- A body line that looks like an opening line, and a comment mark inside a body on
one line of an included file. -/
theorem printable_of_readAll_tail :
    readAll ⟨fun _ => .ok "mode => \x7b #x \x7d\n", none, 1⟩
        (sourceLines 0 "a => \x7b\n  b => \x7bc\n\x7d\ninclude => \x7btail\x7d\n") =
      .ok [⟨"a", ["b => \x7bc"]⟩, ⟨"mode", ["#x"]⟩] ∧
    Block.Printable ⟨"a", ["b => \x7bc"]⟩ ∧ Block.Printable ⟨"mode", ["#x"]⟩ := by
  set includes : Includes := ⟨fun _ => .ok "mode => \x7b #x \x7d\n", none, 1⟩ with hi
  have ha : scan (sourceLines 0 "a => \x7b\n  b => \x7bc\n\x7d\ninclude => \x7btail\x7d\n") =
      .found ⟨"a", ["b => \x7bc"]⟩ 0 [⟨"include => \x7btail\x7d", 0⟩] := by decide
  have hinclude : scan [⟨"include => \x7btail\x7d", 0⟩] = .found ⟨"include", ["tail"]⟩ 0 [] := by
    decide
  have hexpand : includes.expand 0 ["tail"] = .ok [⟨"mode => \x7b #x \x7d", 1⟩] := by
    rw [hi]
    cbv
  have hmode : scan ([⟨"mode => \x7b #x \x7d", 1⟩] ++ []) = .found ⟨"mode", ["#x"]⟩ 1 [] := by
    decide
  have h : readAll includes
      (sourceLines 0 "a => \x7b\n  b => \x7bc\n\x7d\ninclude => \x7btail\x7d\n") =
      .ok [⟨"a", ["b => \x7bc"]⟩, ⟨"mode", ["#x"]⟩] := by
    rw [readAll_eq_ok_iff, readBlocks_of_found ha (by decide),
      readBlocks_of_include hinclude rfl, hexpand]
    simp only [readBlocks_of_found hmode (by decide), readBlocks_of_exhausted scan_nil]
  have hp := (readAll_writtenText_and_printable includes).2 _ _ h
  exact ⟨h, hp _ (by simp), hp _ (by simp)⟩

end CrossStitch
