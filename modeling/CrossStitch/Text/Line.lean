/-! Splitting a text into lines. A line ends at a line feed, and a carriage
return right before that line feed belongs to the line's end. The last line need
not be ended; a carriage return at the very end of such a line is kept. -/

namespace CrossStitch.Text

/-- The line whose characters are given latest first, ended by a line feed. -/
def endedLine : List Char → List Char
  | '\r' :: rest => rest.reverse
  | line => line.reverse

/-- The lines of a text of which the characters `line`, latest first, have
already been read into the current line. -/
def linesFrom (line : List Char) : List Char → List (List Char)
  | [] => if line.isEmpty then [] else [line.reverse]
  | c :: rest =>
    if c = '\n' then endedLine line :: linesFrom [] rest else linesFrom (c :: line) rest

/-- The lines of a text. A final line feed does not open a further line. -/
def lines (text : String) : List String :=
  (linesFrom [] text.toList).map String.ofList

/-- Each line followed by a line feed. -/
def unlines (lines : List String) : String :=
  String.join (lines.map (· ++ "\n"))

end CrossStitch.Text
