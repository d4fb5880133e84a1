import CrossStitch.Yaml.Scalar

/-! Tokens of YAML. Indentation is made explicit: a token opens every indented list
or map, and another one closes it. The key of a map entry may be written without a
mark of its own and is then known for a key only by the colon after it, so a place
where a key may have begun is remembered, and the mark is put there when the colon
is reached. -/

namespace CrossStitch.Yaml

inductive Token
  | documentStart
  | documentEnd
  /-- An indented list or map begins. -/
  | listStart
  | mapStart
  | blockEnd
  /-- The dash before an item of an indented list. -/
  | dash
  /-- A key follows. -/
  | key
  /-- A value follows. -/
  | value
  | openList
  | closeList
  | openMap
  | closeMap
  | comma
  /-- A scalar, and whether it was written without quotes. -/
  | scalar (text : String) (plain : Bool)
  deriving DecidableEq, Repr

/-- A place where a key without a mark may have begun. -/
structure KeyPlace where
  /-- How many tokens come before it. -/
  index : Nat
  position : Position
  /-- Whether nothing but a key can begin there. -/
  required : Bool
  deriving DecidableEq, Repr

/-- The text of a key without a mark lies on one line and has at most so many bytes. -/
def maxKeyLength : Nat := 1024

/-- The tokens read so far and what the next one depends on. -/
structure Tokenizer where
  /-- Latest first. -/
  tokens : List Token
  /-- How many they are. -/
  count : Nat
  /-- The columns of the indented lists and maps that are open, innermost first. -/
  indents : List Nat
  /-- Where a key may have begun within the innermost brackets. -/
  keyPlace : Option KeyPlace
  /-- The same for what is around each open bracket, innermost first. -/
  outerPlaces : List (Option KeyPlace)
  /-- Whether a key may begin here. -/
  keyAllowed : Bool

namespace Tokenizer

def start : Tokenizer := ⟨[], 0, [], none, [], true⟩

def inBrackets (t : Tokenizer) : Bool :=
  !t.outerPlaces.isEmpty

/-- The column from which a line goes on with what is open. -/
def indent (t : Tokenizer) : Nat :=
  match t.indents with
  | [] => 0
  | column :: _ => column + 1

def push (t : Tokenizer) (token : Token) : Tokenizer :=
  { t with tokens := token :: t.tokens, count := t.count + 1 }

/-- Puts a token in front of those from an index on. -/
def insert (t : Tokenizer) (index : Nat) (token : Token) : Tokenizer :=
  let later := t.count - index
  { t with
    tokens := t.tokens.take later ++ token :: t.tokens.drop later
    count := t.count + 1 }

/-! ### Indentation -/

/-- Closes the indented lists and maps whose column does not meet a condition.
Between brackets indentation has no meaning. -/
def closeBlocks (t : Tokenizer) (stays : Nat → Bool) : Tokenizer :=
  if t.inBrackets then t
  else
    let closed := t.indents.takeWhile fun column => !stays column
    { t with
      tokens := List.replicate closed.length .blockEnd ++ t.tokens
      count := t.count + closed.length
      indents := t.indents.drop closed.length }

/-- Opens an indented list or map in front of the token with an index, unless one is
open at that column. -/
def openBlock (t : Tokenizer) (index column : Nat) (token : Token) : Tokenizer :=
  if t.inBrackets || t.indents.head?.any (column ≤ ·) then t
  else { t.insert index token with indents := column :: t.indents }

/-! ### Places of keys -/

/-- Gives up the place where a key may have begun. -/
def dropPlace (t : Tokenizer) : Option Tokenizer :=
  if t.keyPlace.any KeyPlace.required then none else some { t with keyPlace := none }

/-- Gives up that place if a key that begins there would be too long by now. -/
def dropStale (t : Tokenizer) (position : Position) : Option Tokenizer :=
  let stale := t.keyPlace.any fun place =>
    place.position.line < position.line
      || place.position.offset + maxKeyLength < position.offset
  if stale then t.dropPlace else some t

/-- Remembers the place of the next token, if a key may begin there. -/
def notePlace (t : Tokenizer) (position : Position) : Option Tokenizer :=
  if t.keyAllowed then do
    let t ← t.dropPlace
    let required := !t.inBrackets && t.indents.head? == some position.column
    return { t with keyPlace := some ⟨t.count, position, required⟩ }
  else some t

/-! ### Marks -/

/-- A bracket that opens. -/
def openBracket (t : Tokenizer) (position : Position) (token : Token) : Option Tokenizer := do
  let t ← t.notePlace position
  return { t.push token with
    keyPlace := none, outerPlaces := t.keyPlace :: t.outerPlaces, keyAllowed := true }

/-- A bracket that closes. -/
def closeBracket (t : Tokenizer) (token : Token) : Option Tokenizer := do
  let t ← t.dropPlace
  return { t.push token with
    keyPlace := t.outerPlaces.head?.getD t.keyPlace, outerPlaces := t.outerPlaces.tail,
    keyAllowed := false }

/-- A comma between brackets. -/
def separate (t : Tokenizer) : Option Tokenizer := do
  return { (← t.dropPlace).push .comma with keyAllowed := true }

/-- Three dashes or dots that delimit documents. -/
def delimit (t : Tokenizer) (token : Token) : Option Tokenizer := do
  return { (← (t.closeBlocks fun _ => false).dropPlace).push token with keyAllowed := false }

/-- The dash before an item. -/
def startItem (t : Tokenizer) (column : Nat) : Option Tokenizer :=
  if !t.inBrackets && !t.keyAllowed then none
  else do
    let t ← (t.openBlock t.count column .listStart).dropPlace
    return { t.push .dash with keyAllowed := true }

/-- The question mark before a key. -/
def startKey (t : Tokenizer) (column : Nat) : Option Tokenizer :=
  if !t.inBrackets && !t.keyAllowed then none
  else do
    let t ← (t.openBlock t.count column .mapStart).dropPlace
    return { t.push .key with keyAllowed := !t.inBrackets }

/-- The colon before a value. It follows a key without a mark if one may have begun. -/
def startValue (t : Tokenizer) (column : Nat) : Option Tokenizer :=
  match t.keyPlace with
  | some place =>
    let t := (t.insert place.index .key).openBlock place.index place.position.column .mapStart
    some { t.push .value with keyPlace := none, keyAllowed := false }
  | none =>
    if !t.inBrackets && !t.keyAllowed then none
    else
      let t := t.openBlock t.count column .mapStart
      some { t.push .value with keyAllowed := !t.inBrackets }

/-- A scalar. A plain one may have gone on to the start of another line. -/
def addScalar (t : Tokenizer) (position : Position) (reading : Reading) (plain : Bool) :
    Option Tokenizer := do
  return { (← t.notePlace position).push (.scalar reading.value plain) with
    keyAllowed := reading.folds }

end Tokenizer

/-! ### Reading tokens -/

/-- Skips blanks, line ends and comments up to the next token. A line end allows a
key, unless between brackets. Tabs are blanks only where no key may begin. -/
def skipToToken (inBrackets comment keyAllowed : Bool) (position : Position) :
    List Char → Bool × Position × List Char
  | [] => (keyAllowed, position, [])
  | c :: rest =>
    let next := position.after c
    if isBreak c then skipToToken inBrackets false (keyAllowed || !inBrackets) next rest
    else if comment || c == ' ' || (c == '\t' && (inBrackets || !keyAllowed))
        || (c == byteOrderMark && position.column == 0) then
      skipToToken inBrackets comment keyAllowed next rest
    else if c == '#' then skipToToken inBrackets true keyAllowed next rest
    else (keyAllowed, position, c :: rest)

/-- What reading a token leaves: the tokens, and where the text goes on. -/
structure Progress where
  tokenizer : Tokenizer
  position : Position
  rest : List Char

namespace Tokenizer

/-- Goes on with a text after its first character, which was a token. -/
def pass (t : Option Tokenizer) (position : Position) (text : List Char) : Option Progress :=
  t.map fun t => ⟨t, position.after (text.headD ' '), text.tail⟩

/-- Goes on after a scalar. -/
def passScalar (t : Tokenizer) (position : Position) (plain : Bool) (reading : Reading) :
    Option Progress :=
  (t.addScalar position reading plain).map fun t => ⟨t, reading.position, reading.rest⟩

/-- Reads the token a text starts with. -/
def readToken (t : Tokenizer) (position : Position) (text : List Char) : Option Progress :=
  let after := ⟨position.line, position.column + 3, position.offset + 3⟩
  if atTriple '-' position text then
    (t.delimit .documentStart).map fun t => ⟨t, after, text.drop 3⟩
  else if atTriple '.' position text then
    (t.delimit .documentEnd).map fun t => ⟨t, after, text.drop 3⟩
  else
    let column := position.column
    let apart := t.inBrackets || atGap text.tail
    match text.headD ' ' with
    | '[' => pass (t.openBracket position .openList) position text
    | '\x7b' => pass (t.openBracket position .openMap) position text
    | ']' => pass (t.closeBracket .closeList) position text
    | '\x7d' => pass (t.closeBracket .closeMap) position text
    | ',' => pass t.separate position text
    | '"' => do
      t.passScalar position false (← quotedFrom '"' .text .start (position.after '"') text.tail)
    | '\'' => do
      t.passScalar position false (← quotedFrom '\'' .text .start (position.after '\'') text.tail)
    | c =>
      if c == '-' && atGap text.tail then pass (t.startItem column) position text
      else if c == '?' && apart then pass (t.startKey column) position text
      else if c == ':' && apart then pass (t.startValue column) position text
      else if startsPlain t.inBrackets text then do
        t.passScalar position true (← plainFrom t.inBrackets t.indent .start position text)
      else none

/-- Reads all tokens; every step takes at least one character. -/
def readTokens : (fuel : Nat) → Tokenizer → Position → List Char → Option (List Token)
  | 0, _, _, _ => none
  | fuel + 1, t, position, text =>
    let (keyAllowed, position, text) :=
      skipToToken t.inBrackets false t.keyAllowed position text
    match { t with keyAllowed }.dropStale position with
    | none => none
    | some t =>
      if text.isEmpty then
        (t.closeBlocks fun _ => false).dropPlace.map fun t => t.tokens.reverse
      else
        match (t.closeBlocks fun column => column ≤ position.column).readToken position text with
        | none => none
        | some next => readTokens fuel next.tokenizer next.position next.rest

end Tokenizer

/-- The tokens of a text. -/
def tokens? (source : String) : Option (List Token) :=
  let text := source.toList
  if text.all isPrintable then
    Tokenizer.start.readTokens (text.length + 1) .start (unifyBreaks text)
  else none

end CrossStitch.Yaml
