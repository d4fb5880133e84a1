import CrossStitch.Block.Basic
import CrossStitch.Fault
import CrossStitch.Text.Blank
import CrossStitch.Text.Cut

/-! The block grammar. A block is written on one line, `mode => {body}`, or over
several: an opening line `mode => {`, the lines of the body, and a line that is
only `}`. Every line is trimmed before it is looked at, and blank lines and lines
that start with `#` are idle wherever they stand. -/

namespace CrossStitch

namespace SourceLine

/-- The line's characters without the blanks around them. -/
def content (line : SourceLine) : List Char :=
  Text.trim line.text.toList

/-- Blank lines and comments carry nothing. -/
def isIdle (line : SourceLine) : Bool :=
  match line.content with
  | [] => true
  | c :: _ => c == '#'

/-- Whether the line ends a block that is open. -/
def closes (line : SourceLine) : Bool :=
  line.content == ['}']

end SourceLine

/-- The mark between a block's mode and its body. -/
def openingMark : List Char := [' ', '=', '>', ' ', '{']

/-- What a line outside every block can be, idle lines apart. -/
inductive Opening
  /-- The first line of a block over several lines. -/
  | below (mode : String)
  /-- A block on one line. -/
  | whole (block : Block)
  | broken (kind : ChartFault)
  deriving DecidableEq, Repr

/-- Reads a trimmed line that should start a block. The opening mark must occur
exactly once; in a block on one line the final brace is taken off first. -/
def opening (line : List Char) : Opening :=
  if openingMark.isSuffixOf line then
    match Text.pair? openingMark line with
    | some (mode, _) => .below (String.ofList mode)
    | none => .broken .invalidStartBlock
  else if line.getLast? = some '}' then
    match Text.cut? openingMark line.dropLast with
    | none => .broken .expectedStartOfBlock
    | some (mode, body) =>
      if Text.occurs openingMark body then .broken .singleLineBlockInvalid
      else if (Text.trim body).isEmpty then .broken .emptyBlock
      else .whole ⟨String.ofList mode, [String.ofList (Text.trim body)]⟩
  else .broken .expectedStartOfBlock

/-- The raw text of lines, for the trace of a fault. -/
def rawLines (lines : List SourceLine) : List String :=
  lines.map SourceLine.text

/-- The body that the lines between the opening and the closing line make. -/
def bodyLines (lines : List SourceLine) : List String :=
  (lines.filter fun line => !line.isIdle).map fun line => String.ofList line.content

/-- What comes first in a list of lines. -/
inductive Scan
  /-- A block, the depth of its opening line, and the lines after it. -/
  | found (block : Block) (depth : Nat) (rest : List SourceLine)
  | exhausted
  | broken (kind : ChartFault) (trace : List String)
  deriving DecidableEq, Repr

/-- Reads on below the opening line of a block; `before` holds the lines up to
and including that line. -/
def scanBody (mode : String) (depth : Nat) (before rest : List SourceLine) : Scan :=
  let body := rest.takeWhile fun line => !line.closes
  match rest.dropWhile fun line => !line.closes with
  | [] => .broken (.unclosedBlock 1) (rawLines (before ++ body))
  | closing :: after =>
    if (bodyLines body).isEmpty then
      .broken .emptyBlock (rawLines (before ++ body ++ [closing]))
    else .found ⟨mode, bodyLines body⟩ depth after

/-- Finds the first block. A fault's trace runs from the first line given to the
line at fault, or to the last line when a block is never closed. -/
def scan (lines : List SourceLine) : Scan :=
  let before := lines.takeWhile SourceLine.isIdle
  match lines.dropWhile SourceLine.isIdle with
  | [] => .exhausted
  | line :: rest =>
    match opening line.content with
    | .below mode => scanBody mode line.depth (before ++ [line]) rest
    | .whole block => .found block line.depth rest
    | .broken kind => .broken kind (rawLines (before ++ [line]))

/-! ### What a scan takes from its lines -/

/-- The first line that says anything opens the block. -/
theorem scan_of_dropWhile {lines : List SourceLine} {line : SourceLine} {rest : List SourceLine}
    (h : lines.dropWhile SourceLine.isIdle = line :: rest) :
    scan lines =
      match opening line.content with
      | .below mode => scanBody mode line.depth (lines.takeWhile SourceLine.isIdle ++ [line]) rest
      | .whole block => .found block line.depth rest
      | .broken kind => .broken kind (rawLines (lines.takeWhile SourceLine.isIdle ++ [line])) := by
  simp only [scan, h]

theorem scanBody_found {mode : String} {depth : Nat} {before lines : List SourceLine}
    {block : Block} {d : Nat} {rest : List SourceLine}
    (h : scanBody mode depth before lines = .found block d rest) :
    d = depth ∧ ∃ body, lines = body ++ rest := by
  simp only [scanBody] at h
  split at h
  · cases h
  · next closing after hs =>
    split at h
    · cases h
    · cases h
      refine ⟨rfl, lines.takeWhile (fun line => !line.closes) ++ [closing], ?_⟩
      rw [List.append_assoc, List.singleton_append, ← hs, List.takeWhile_append_dropWhile]

/-- A block takes its opening line, whose depth is the block's, and possibly
lines around it; what is left is a tail of the lines. -/
theorem scan_found {lines : List SourceLine} {block : Block} {depth : Nat}
    {rest : List SourceLine} (h : scan lines = .found block depth rest) :
    ∃ before line middle, lines = before ++ line :: (middle ++ rest) ∧ line.depth = depth := by
  simp only [scan] at h
  split at h
  · cases h
  · next line after hs =>
    have hl : lines = lines.takeWhile SourceLine.isIdle ++ line :: after := by
      rw [← hs, List.takeWhile_append_dropWhile]
    split at h
    · obtain ⟨hd, body, hb⟩ := scanBody_found h
      exact ⟨_, line, body, by rw [← hb]; exact hl, hd.symm⟩
    · cases h
      exact ⟨_, line, [], hl, rfl⟩
    · cases h

end CrossStitch
