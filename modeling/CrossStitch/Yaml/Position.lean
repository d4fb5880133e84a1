/-! The characters of a YAML text and where in the text they stand. Lines may end in
several ways; all but the line and paragraph separators are made a line feed first,
which is what they stand for in the text of a scalar. -/

namespace CrossStitch.Yaml

/-- A text with one character for each line end. -/
def unifyBreaks : List Char → List Char
  | [] => []
  | '\r' :: '\n' :: rest => '\n' :: unifyBreaks rest
  | c :: rest => (if c == '\r' || c == '\u0085' then '\n' else c) :: unifyBreaks rest

/-- Whether a character ends a line. -/
def isBreak (c : Char) : Bool :=
  c == '\n' || c == '\u2028' || c == '\u2029'

def isSpace (c : Char) : Bool :=
  c == ' ' || c == '\t'

/-- Whether a text is at its end, at the end of a line or at a blank. -/
def atGap : List Char → Bool
  | [] => true
  | c :: _ => isSpace c || isBreak c

/-- The mark for byte order. It is skipped at the start of a line. -/
def byteOrderMark : Char := '\ufeff'

/-- The characters a text may hold: no control characters other than tabs and line
ends, and no noncharacters of the first plane. -/
def isPrintable (c : Char) : Bool :=
  c == '\t' || c == '\n' || c == '\r' || (' ' ≤ c && c ≤ '~') || c == '\u0085'
    || ('\u00a0' ≤ c && c != '\ufffe' && c != '\uffff')

/-- The brackets and commas that structure a value in brackets. -/
def isBracketMark (c : Char) : Bool :=
  [',', '[', ']', '\x7b', '\x7d'].contains c

/-- The place of a character. Lines and columns count from 0; the offset counts the
bytes before the character. -/
structure Position where
  line : Nat
  column : Nat
  offset : Nat
  deriving DecidableEq, Repr

namespace Position

def start : Position := ⟨0, 0, 0⟩

/-- The place after a character. -/
def after (position : Position) (c : Char) : Position :=
  if isBreak c then ⟨position.line + 1, 0, position.offset + c.utf8Size⟩
  else ⟨position.line, position.column + 1, position.offset + c.utf8Size⟩

end Position

/-- Whether three marks of one kind start a line and stand alone. -/
def atTriple (mark : Char) (position : Position) (text : List Char) : Bool :=
  position.column == 0 && text.take 3 == [mark, mark, mark] && atGap (text.drop 3)

/-- Whether a line that delimits documents starts here. -/
def atDelimiter (position : Position) (text : List Char) : Bool :=
  atTriple '-' position text || atTriple '.' position text

end CrossStitch.Yaml
