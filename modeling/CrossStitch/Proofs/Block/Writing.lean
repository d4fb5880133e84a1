import CrossStitch.Proofs.Block.Reading
import CrossStitch.Proofs.Text.Cut
import CrossStitch.Proofs.Text.Line
import CrossStitch.Proofs.Text.Trim

/-! Blocks and the source they are written in. A block that can be written at all
can be written over several lines or on one, depending on its lines, and it is
read back from either form wherever the lines of that form stand at the front of
a buffer. -/

namespace CrossStitch

/-- The two ways of writing a block. -/
inductive Form
  /-- An opening line, the lines of the body, and a closing line. -/
  | long
  /-- All on one line. -/
  | short
  deriving DecidableEq, Repr

/-- The line that ends a block over several lines. -/
def closingLine : String := String.ofList ['}']

@[simp] theorem toList_closingLine : closingLine.toList = ['}'] := String.toList_ofList

/-- The lines of a block in a given form. -/
def Form.write : Form → Block → List String
  | .long, block => (block.mode ++ String.ofList openingMark) :: block.lines ++ [closingLine]
  | .short, block =>
    [block.mode ++ String.ofList openingMark ++ String.join block.lines ++ closingLine]

/-- What can be told of a body's lines for the form. A line of a body over several
lines must not be taken for a comment or for the closing line, and a body on one
line must not hold another opening mark. -/
def Form.Suits : Form → Block → Prop
  | .long, block =>
    block.lines ≠ [] ∧ ∀ line ∈ block.lines, line.toList.head? ≠ some '#' ∧ line ≠ closingLine
  | .short, block => ∃ line, block.lines = [line] ∧ ¬ openingMark <:+: line.toList

/-- A mode that can stand before an opening mark. -/
structure IsMode (mode : List Char) : Prop where
  ne_nil : mode ≠ []
  one_line : '\n' ∉ mode
  no_mark : ¬ openingMark <:+: mode
  start : ∀ c ∈ mode.head?, Text.isBlank c = false ∧ c ≠ '#'

/-- A line of a body, as trimming leaves it. -/
structure IsBodyLine (line : List Char) : Prop where
  ne_nil : line ≠ []
  one_line : '\n' ∉ line
  trimmed : Text.Trimmed line

instance (line : List Char) : Decidable (IsBodyLine line) :=
  decidable_of_iff (line ≠ [] ∧ '\n' ∉ line ∧ Text.Trimmed line)
    ⟨fun ⟨hne, hline, ht⟩ => ⟨hne, hline, ht⟩, fun ⟨hne, hline, ht⟩ => ⟨hne, hline, ht⟩⟩

/-- What does not depend on the form. -/
structure Block.Plain (block : Block) : Prop where
  mode : IsMode block.mode.toList
  lines : ∀ line ∈ block.lines, IsBodyLine line.toList

/-- A block of a chart that can be written. -/
structure Block.Printable (block : Block) : Prop extends block.Plain where
  ne_include : block.mode ≠ includeMode
  form : ∃ form : Form, form.Suits block

/-- A block and the form it is written in. -/
structure WrittenBlock where
  block : Block
  form : Form
  printable : block.Printable
  suits : form.Suits block

def WrittenBlock.lines (written : WrittenBlock) : List String :=
  written.form.write written.block

/-- The source in which blocks are written one after the other. -/
def writtenText (blocks : List WrittenBlock) : String :=
  Text.unlines (blocks.flatMap WrittenBlock.lines)

/-! ### Reading what was written -/

theorem openingMark_not_infix_append {mode : List Char} (h : ¬ openingMark <:+: mode) :
    ¬ openingMark <:+: mode ++ openingMark.dropLast := by
  intro hi
  have hl : '{' ∉ [' ', '=', '>', ' '] := by decide
  exact h (Text.infix_of_infix_append_dropLast hl hi)

theorem not_openingMark_suffix {text : List Char} {last : Char} (h : text.getLast? = some last)
    (hl : last ≠ '{') : ¬ openingMark <:+ text := by
  rintro ⟨before, rfl⟩
  rw [List.getLast?_append] at h
  exact hl (Option.some.inj h).symm

theorem opening_append_openingMark {mode : List Char} (h : ¬ openingMark <:+: mode) :
    opening (mode ++ openingMark) = .below (String.ofList mode) := by
  have hp : Text.pair? openingMark (mode ++ openingMark) = some (mode, []) := by
    rw [Text.pair?_eq_some_iff (by decide)]
    exact ⟨by simp, openingMark_not_infix_append h, by decide⟩
  simp [opening, hp]

theorem opening_whole {mode body : List Char} (hm : ¬ openingMark <:+: mode)
    (hb : ¬ openingMark <:+: body) (ht : Text.trim body ≠ []) :
    opening (mode ++ openingMark ++ body ++ ['}']) =
      .whole ⟨String.ofList mode, [String.ofList (Text.trim body)]⟩ := by
  have hs : ¬ openingMark <:+ mode ++ openingMark ++ body ++ ['}'] :=
    not_openingMark_suffix List.getLast?_concat (by decide)
  have hc : Text.cut? openingMark (mode ++ openingMark ++ body) = some (mode, body) :=
    (Text.cut?_eq_some_iff (by decide)).mpr ⟨rfl, openingMark_not_infix_append hm⟩
  have ho : Text.occurs openingMark body = false := (Text.occurs_eq_false_iff (by decide)).mpr hb
  rw [opening, if_neg (by simpa using hs), if_pos List.getLast?_concat, List.dropLast_concat, hc]
  simp [ho, ht]

/-- Lines of one depth. -/
def linesAt (depth : Nat) (lines : List String) : List SourceLine :=
  lines.map fun line => ⟨line, depth⟩

theorem content_of_trimmed {line : SourceLine} (h : Text.Trimmed line.text.toList) :
    line.content = line.text.toList :=
  Text.trim_eq_self h

theorem isIdle_of_content {line : SourceLine} {c : Char} {text : List Char}
    (h : line.content = c :: text) (hc : c ≠ '#') : line.isIdle = false := by
  simp [SourceLine.isIdle, h, hc]

/-- The first line of a written block is read as it stands. -/
theorem IsMode.content_append {mode : List Char} (h : IsMode mode) {line : SourceLine}
    {middle : List Char} {last : Char} (hl : line.text.toList = mode ++ (middle ++ [last]))
    (hb : Text.isBlank last = false) :
    line.content = line.text.toList ∧ line.isIdle = false := by
  obtain ⟨c, rest, rfl⟩ := List.exists_cons_of_ne_nil h.ne_nil
  obtain ⟨hc, hne⟩ := h.start c rfl
  have ht : Text.Trimmed line.text.toList := by
    rw [hl, ← List.append_assoc, List.cons_append]
    exact Text.trimmed_cons_append (rest ++ middle) hc hb
  have hcontent := content_of_trimmed ht
  exact ⟨hcontent, isIdle_of_content (hcontent.trans hl) hne⟩

theorem scan_of_below {line : SourceLine} {mode : String} (hi : line.isIdle = false)
    (ho : opening line.content = .below mode) (rest : List SourceLine) :
    scan (line :: rest) = scanBody mode line.depth [line] rest := by
  simp [scan, hi, ho]

theorem scan_of_whole {line : SourceLine} {block : Block} (hi : line.isIdle = false)
    (ho : opening line.content = .whole block) (rest : List SourceLine) :
    scan (line :: rest) = .found block line.depth rest := by
  simp [scan, hi, ho]

theorem scanBody_append {body : List SourceLine} {closing : SourceLine}
    (hb : ∀ line ∈ body, line.closes = false) (hc : closing.closes = true)
    (hne : bodyLines body ≠ []) (mode : String) (depth : Nat) (before rest : List SourceLine) :
    scanBody mode depth before (body ++ closing :: rest) =
      .found ⟨mode, bodyLines body⟩ depth rest := by
  have hb' : ∀ line ∈ body, (!line.closes) = true := fun line hl => by simp [hb line hl]
  have ht : (body ++ closing :: rest).takeWhile (fun line => !line.closes) = body := by
    simp [List.takeWhile_append_of_pos hb', hc]
  have hd : (body ++ closing :: rest).dropWhile (fun line => !line.closes) = closing :: rest := by
    simp [List.dropWhile_append_of_pos hb', hc]
  simp [scanBody, ht, hd, hne]

/-- The lines of a body come through unchanged. -/
theorem bodyLines_linesAt {lines : List String} (hl : ∀ line ∈ lines, IsBodyLine line.toList)
    (hc : ∀ line ∈ lines, line.toList.head? ≠ some '#') (depth : Nat) :
    bodyLines (linesAt depth lines) = lines := by
  induction lines with
  | nil => rfl
  | cons line lines ih =>
    have hcontent : SourceLine.content ⟨line, depth⟩ = line.toList :=
      content_of_trimmed (hl line List.mem_cons_self).trimmed
    have hidle : SourceLine.isIdle ⟨line, depth⟩ = false := by
      obtain ⟨c, text, ht⟩ := List.exists_cons_of_ne_nil (hl line List.mem_cons_self).ne_nil
      apply isIdle_of_content (hcontent.trans ht)
      rintro rfl
      exact hc line List.mem_cons_self (by rw [ht]; rfl)
    have ih := ih (fun l h => hl l (List.mem_cons_of_mem line h))
      (fun l h => hc l (List.mem_cons_of_mem line h))
    simp only [bodyLines, linesAt] at ih
    simp [bodyLines, linesAt, hidle, hcontent, ih]

theorem scan_write_long {block : Block} (hp : block.Plain) (hs : Form.long.Suits block)
    (depth : Nat) (rest : List SourceLine) :
    scan (linesAt depth (Form.long.write block) ++ rest) = .found block depth rest := by
  obtain ⟨hne, hlines⟩ := hs
  have ht : (SourceLine.mk (block.mode ++ String.ofList openingMark) depth).text.toList =
      block.mode.toList ++ ([' ', '=', '>', ' '] ++ ['{']) := by
    simp [openingMark]
  obtain ⟨hcontent, hidle⟩ := hp.mode.content_append ht (by decide)
  have ho := opening_append_openingMark hp.mode.no_mark
  rw [String.ofList_toList] at ho
  have hbody : bodyLines (linesAt depth block.lines) = block.lines :=
    bodyLines_linesAt hp.lines (fun line hl => (hlines line hl).1) depth
  have hopen : ∀ line ∈ linesAt depth block.lines, line.closes = false := by
    intro line hl
    obtain ⟨text, htext, rfl⟩ := List.mem_map.mp hl
    have hc : SourceLine.content ⟨text, depth⟩ = text.toList :=
      content_of_trimmed (hp.lines text htext).trimmed
    have hn : text.toList ≠ ['}'] := fun h => (hlines text htext).2 (String.toList_inj.mp h)
    simpa [SourceLine.closes, hc] using hn
  have hclose : SourceLine.closes ⟨closingLine, depth⟩ = true := by
    rw [SourceLine.closes, SourceLine.content, toList_closingLine]
    decide
  have hw : linesAt depth (Form.long.write block) ++ rest =
      ⟨block.mode ++ String.ofList openingMark, depth⟩ ::
        (linesAt depth block.lines ++ ⟨closingLine, depth⟩ :: rest) := by
    simp [linesAt, Form.write]
  rw [hw, scan_of_below hidle (by rw [hcontent, ht]; exact ho),
    scanBody_append hopen hclose (by rw [hbody]; exact hne), hbody]

theorem scan_write_short {block : Block} (hp : block.Plain) (hs : Form.short.Suits block)
    (depth : Nat) (rest : List SourceLine) :
    scan (linesAt depth (Form.short.write block) ++ rest) = .found block depth rest := by
  obtain ⟨mode, lines⟩ := block
  obtain ⟨text, rfl, hmark⟩ := hs
  have htext : IsBodyLine text.toList := hp.lines text List.mem_cons_self
  have ht : (SourceLine.mk (mode ++ String.ofList openingMark ++ text ++ closingLine) depth).text.toList =
      mode.toList ++ (openingMark ++ text.toList ++ ['}']) := by
    simp
  obtain ⟨hcontent, hidle⟩ := hp.mode.content_append ht (by decide)
  have htrim : Text.trim text.toList = text.toList := Text.trim_eq_self htext.trimmed
  have ho := opening_whole hp.mode.no_mark hmark (by rw [htrim]; exact htext.ne_nil)
  rw [htrim, String.ofList_toList, String.ofList_toList] at ho
  have hw : linesAt depth (Form.short.write ⟨mode, [text]⟩) ++ rest =
      ⟨mode ++ String.ofList openingMark ++ text ++ closingLine, depth⟩ :: rest := by
    simp [linesAt, Form.write, String.join]
  rw [hw, scan_of_whole hidle (by simpa [hcontent] using ho)]

/-- A written block is found at the front of any buffer. -/
theorem scan_write {form : Form} {block : Block} (hp : block.Plain) (hs : form.Suits block)
    (depth : Nat) (rest : List SourceLine) :
    scan (linesAt depth (form.write block) ++ rest) = .found block depth rest := by
  cases form with
  | long => exact scan_write_long hp hs depth rest
  | short => exact scan_write_short hp hs depth rest

theorem scan_nil : scan [] = .exhausted := rfl

/-- Written blocks are read back, from any depth and under any includes. -/
theorem readBlocks_lines (includes : Includes) (depth : Nat) (blocks : List WrittenBlock) :
    readBlocks includes (linesAt depth (blocks.flatMap WrittenBlock.lines)) =
      (blocks.map WrittenBlock.block, none) := by
  induction blocks with
  | nil => exact readBlocks_of_exhausted scan_nil
  | cons written blocks ih =>
    have hs := scan_write written.printable.toPlain written.suits depth
      (linesAt depth (blocks.flatMap WrittenBlock.lines))
    have hl : linesAt depth ((written :: blocks).flatMap WrittenBlock.lines) =
        linesAt depth (written.form.write written.block) ++
          linesAt depth (blocks.flatMap WrittenBlock.lines) := by
      simp [linesAt, WrittenBlock.lines]
    rw [hl, readBlocks_of_found hs written.printable.ne_include, ih]
    rfl

theorem isLine_of_getLast? {line : List Char} (last : Char) (hn : '\n' ∉ line)
    (h : line.getLast? = some last) (hl : last ≠ '\r') : Text.IsLine line :=
  ⟨hn, by rw [h]; simpa using hl⟩

theorem IsBodyLine.isLine {line : List Char} (h : IsBodyLine line) : Text.IsLine line := by
  apply isLine_of_getLast? _ h.one_line (List.getLast?_eq_some_getLast h.ne_nil)
  intro he
  have hb := h.trimmed.2 '\r' (by rw [List.getLast?_eq_some_getLast h.ne_nil, he]; rfl)
  exact absurd hb (by decide)

/-- A written block takes up just the lines it is written in. -/
theorem isLine_of_mem_write {form : Form} {block : Block} (hp : block.Plain)
    (hs : form.Suits block) : ∀ line ∈ form.write block, Text.IsLine line.toList := by
  have hmark : '\n' ∉ openingMark := by decide
  cases form with
  | long =>
    intro line hl
    simp only [Form.write, List.cons_append, List.mem_cons, List.mem_append, List.not_mem_nil,
      or_false] at hl
    rcases hl with rfl | hl | rfl
    · refine isLine_of_getLast? '{' ?_ ?_ (by decide)
      · simp [hp.mode.one_line, hmark]
      · simp [openingMark]
    · exact (hp.lines line hl).isLine
    · exact ⟨by decide, by decide⟩
  | short =>
    obtain ⟨mode, lines⟩ := block
    obtain ⟨text, rfl, _⟩ := hs
    have htext : IsBodyLine text.toList := hp.lines text List.mem_cons_self
    intro line hl
    rw [Form.write, List.mem_singleton] at hl
    subst hl
    refine isLine_of_getLast? '}' ?_ ?_ (by decide)
    · simp [hp.mode.one_line, hmark, htext.one_line, String.join]
    · simp

theorem sourceLines_writtenText (depth : Nat) (blocks : List WrittenBlock) :
    sourceLines depth (writtenText blocks) =
      linesAt depth (blocks.flatMap WrittenBlock.lines) := by
  rw [sourceLines, writtenText, Text.lines_unlines, linesAt]
  intro line hl
  obtain ⟨written, _, hw⟩ := List.mem_flatMap.mp hl
  exact isLine_of_mem_write written.printable.toPlain written.suits line hw

/-- A chart of written blocks is read back, whatever its includes. -/
theorem readAll_writtenText (includes : Includes) (blocks : List WrittenBlock) :
    readAll includes (sourceLines 0 (writtenText blocks)) =
      .ok (blocks.map WrittenBlock.block) := by
  rw [readAll_eq_ok_iff, sourceLines_writtenText, readBlocks_lines]

/-- Blocks that can be written each take a form. -/
theorem exists_writtenBlocks {blocks : List Block} (h : ∀ block ∈ blocks, block.Printable) :
    ∃ printed : List WrittenBlock, printed.map WrittenBlock.block = blocks := by
  induction blocks with
  | nil => exact ⟨[], rfl⟩
  | cons block blocks ih =>
    obtain ⟨hblock, hrest⟩ := List.forall_mem_cons.mp h
    obtain ⟨form, hs⟩ := hblock.form
    obtain ⟨printed, rfl⟩ := ih hrest
    exact ⟨⟨block, form, hblock, hs⟩ :: printed, rfl⟩

end CrossStitch
