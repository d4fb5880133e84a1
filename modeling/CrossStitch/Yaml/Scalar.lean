import CrossStitch.Yaml.Position

/-! Scalars: plain ones, which end where other marks of YAML begin, and quoted ones.
A scalar may run over several lines. What stands between two of its runs of text is
folded: blanks next to a line end do not count, a single line feed stands for a
blank, and of several the first does not count. -/

namespace CrossStitch.Yaml

/-! ### Gaps -/

/-- What has been read since the last character that was not blank. -/
structure Gap where
  /-- Blanks not next to a line end, latest first. -/
  blanks : List Char
  /-- Line ends, latest first. -/
  breaks : List Char
  /-- Whether a backslash took away the line end before these. -/
  joined : Bool
  deriving DecidableEq, Repr

namespace Gap

def none : Gap := ⟨[], [], false⟩

/-- Whether the gap goes on to another line. -/
def folds (gap : Gap) : Bool :=
  gap.joined || !gap.breaks.isEmpty

def isNone (gap : Gap) : Bool :=
  !gap.folds && gap.blanks.isEmpty

def blank (gap : Gap) (c : Char) : Gap :=
  if gap.folds then gap else { gap with blanks := c :: gap.blanks }

def lineEnd (gap : Gap) (c : Char) : Gap :=
  { gap with blanks := [], breaks := c :: gap.breaks }

/-- The text the gap stands for, latest character first. -/
def text (gap : Gap) : List Char :=
  if gap.joined then gap.breaks
  else match gap.breaks.reverse with
    | [] => gap.blanks
    | first :: later =>
      if first != '\n' then gap.breaks else if later.isEmpty then [' '] else later.reverse

end Gap

/-- The part of a scalar that has been read: its text up to the last gap, latest
character first, and that gap. -/
structure Draft where
  done : List Char
  gap : Gap
  deriving DecidableEq, Repr

namespace Draft

def start : Draft := ⟨[], Gap.none⟩

/-- Takes a character that is not blank, or stands for itself. -/
def put (draft : Draft) (c : Char) : Draft :=
  ⟨c :: (draft.gap.text ++ draft.done), Gap.none⟩

/-- Takes a blank or a line end. -/
def space (draft : Draft) (c : Char) : Draft :=
  { draft with gap := if isBreak c then draft.gap.lineEnd c else draft.gap.blank c }

/-- Takes a line end behind a backslash. -/
def join (draft : Draft) : Draft :=
  ⟨draft.gap.text ++ draft.done, { Gap.none with joined := true }⟩

end Draft

/-- A scalar and where the text goes on after it. -/
structure Reading where
  value : String
  /-- Whether it was followed by a line end that has been read too. -/
  folds : Bool
  position : Position
  rest : List Char
  deriving DecidableEq, Repr

/-! ### Plain scalars -/

/-- Whether a plain scalar can begin like this. -/
def startsPlain (inBrackets : Bool) : List Char → Bool
  | [] => false
  | c :: rest =>
    if c == '-' then !atGap rest
    else if c == '?' || c == ':' then !inBrackets && !atGap rest
    else !isBracketMark c && !isSpace c && !isBreak c && !"#&*!|>'\"%@\x60".toList.contains c

/-- Whether a plain scalar ends before this text, which follows the gap without a
gap of its own. After a gap, a comment, a line that delimits documents and a line
not indented as far as `indent` end it too. -/
def endsPlain (inBrackets : Bool) (indent : Nat) (gap : Gap) (position : Position)
    (text : List Char) : Bool :=
  (!gap.isNone && ((!inBrackets && position.column < indent) || atDelimiter position text
    || text.head? == some '#')) ||
  (text.head? == some ':' && atGap text.tail) ||
  (inBrackets && text.head?.any isBracketMark)

/-- Reads a plain scalar. A tab may not take the place of indentation, and in
brackets a colon may not stand right before a mark. -/
def plainFrom (inBrackets : Bool) (indent : Nat) (draft : Draft) (position : Position) :
    List Char → Option Reading
  | [] => some ⟨String.ofList draft.done.reverse, draft.gap.folds, position, []⟩
  | c :: rest =>
    if isSpace c || isBreak c then
      if c == '\t' && draft.gap.folds && position.column < indent then none
      else plainFrom inBrackets indent (draft.space c) (position.after c) rest
    else if endsPlain inBrackets indent draft.gap position (c :: rest) then
      some ⟨String.ofList draft.done.reverse, draft.gap.folds, position, c :: rest⟩
    else if inBrackets && c == ':' && rest.head?.any (fun d => isBracketMark d || d == '?') then
      none
    else plainFrom inBrackets indent (draft.put c) (position.after c) rest

/-! ### Quoted scalars -/

/-- The value of a hexadecimal digit. -/
def hexDigit? (c : Char) : Option Nat :=
  if '0' ≤ c ∧ c ≤ '9' then some (c.toNat - 48)
  else if 'a' ≤ c ∧ c ≤ 'f' then some (c.toNat - 87)
  else if 'A' ≤ c ∧ c ≤ 'F' then some (c.toNat - 55)
  else none

/-- How many hexadecimal digits follow an escape letter, if it takes any. -/
def codeLength? : Char → Option Nat
  | 'x' => some 2
  | 'u' => some 4
  | 'U' => some 8
  | _ => none

/-- The character an escape letter stands for. -/
def escaped? : Char → Option Char
  | '0' => some '\x00'
  | 'a' => some '\x07'
  | 'b' => some '\x08'
  | 't' => some '\t'
  | '\t' => some '\t'
  | 'n' => some '\n'
  | 'v' => some '\x0b'
  | 'f' => some '\x0c'
  | 'r' => some '\r'
  | 'e' => some '\x1b'
  | ' ' => some ' '
  | '"' => some '"'
  | '/' => some '/'
  | '\\' => some '\\'
  | 'N' => some '\u0085'
  | '_' => some '\u00a0'
  | 'L' => some '\u2028'
  | 'P' => some '\u2029'
  | _ => none

/-- The character with a code point, if there is one. -/
def charOf? (code : Nat) : Option Char :=
  if code.isValidChar then some (Char.ofNat code) else none

/-- What the next character of a quoted scalar is part of. -/
inductive QuoteState
  | text
  /-- An escape, of which the backslash has been read. -/
  | escape
  /-- A code point of which `count` digits are to come. -/
  | code (count value : Nat)
  /-- In single quotes: a quote, which ends the scalar unless it is doubled. -/
  | quote
  deriving DecidableEq, Repr

/-- Reads a scalar in quotes of the given kind, from behind the opening quote. A line
that delimits documents may not stand in it. -/
def quotedFrom (quote : Char) (state : QuoteState) (draft : Draft) (position : Position) :
    List Char → Option Reading
  | [] =>
    if state = .quote then
      some ⟨String.ofList (draft.gap.text ++ draft.done).reverse, false, position, []⟩
    else none
  | c :: rest =>
    match state with
    | .quote =>
      if c == quote then quotedFrom quote .text (draft.put c) (position.after c) rest
      else
        some ⟨String.ofList (draft.gap.text ++ draft.done).reverse, false, position, c :: rest⟩
    | .escape =>
      if isBreak c then quotedFrom quote .text draft.join (position.after c) rest
      else
        match codeLength? c, escaped? c with
        | some count, _ => quotedFrom quote (.code count 0) draft (position.after c) rest
        | none, some d => quotedFrom quote .text (draft.put d) (position.after c) rest
        | none, none => none
    | .code count value =>
      match hexDigit? c with
      | none => none
      | some d =>
        let value := value * 16 + d
        if 1 < count then
          quotedFrom quote (.code (count - 1) value) draft (position.after c) rest
        else
          match charOf? value with
          | none => none
          | some e => quotedFrom quote .text (draft.put e) (position.after c) rest
    | .text =>
      if isSpace c || isBreak c then
        quotedFrom quote .text (draft.space c) (position.after c) rest
      else if atDelimiter position (c :: rest) then none
      else if c == '\\' && quote == '"' then
        quotedFrom quote .escape draft (position.after c) rest
      else if c != quote then
        quotedFrom quote .text (draft.put c) (position.after c) rest
      else if quote == '"' then
        some ⟨String.ofList (draft.gap.text ++ draft.done).reverse, false, position.after c, rest⟩
      else quotedFrom quote .quote draft (position.after c) rest

end CrossStitch.Yaml
