import CrossStitch.Yaml.Basic
import CrossStitch.Yaml.Token

/-! Documents: from tokens to a value. The tokens are taken one by one, and a stack
holds the lists and maps that are still open, each with what it waits for. Where a
token shows that a key, a value or an item was left out, nothing stands in for it.

Directives, tags, anchors and block scalars are not understood; a text that uses
them is refused, like one that is malformed. -/

namespace CrossStitch.Yaml

/-- Something unfinished and what it waits for. Items and entries are kept latest
first. -/
inductive Open
  /-- Nothing has been read. -/
  | document
  /-- A document has been started, but its value has not. -/
  | content
  /-- The document is complete. -/
  | complete (value : Yaml)
  /-- An indented list waits for a dash or its end. -/
  | items (done : List Yaml)
  /-- It waits for the item after a dash. -/
  | item (done : List Yaml)
  /-- The same for a list that is not indented further than the key it belongs to. -/
  | flatItems (done : List Yaml)
  | flatItem (done : List Yaml)
  /-- An indented map waits for a key mark or its end. -/
  | entries (done : List (Yaml × Yaml))
  | entryKey (done : List (Yaml × Yaml))
  /-- It waits for the mark of the value of a key. -/
  | entryMark (done : List (Yaml × Yaml)) (key : Yaml)
  | entryValue (done : List (Yaml × Yaml)) (key : Yaml)
  /-- A list in brackets waits for an item or its end. -/
  | bracketItem (done : List Yaml)
  /-- It waits for a comma or its end. -/
  | bracketItems (done : List Yaml)
  /-- An item of a list in brackets is a map of one entry, written without braces. -/
  | pairKey (done : List Yaml)
  | pairMark (done : List Yaml) (key : Yaml)
  | pairValue (done : List Yaml) (key : Yaml)
  /-- A map in braces waits for an entry or its end. -/
  | braceEntry (done : List (Yaml × Yaml))
  /-- It waits for a comma or its end. -/
  | braceEntries (done : List (Yaml × Yaml))
  | braceKey (done : List (Yaml × Yaml))
  | braceMark (done : List (Yaml × Yaml)) (key : Yaml)
  | braceValue (done : List (Yaml × Yaml)) (key : Yaml)

namespace Open

/-- What has become of something that waited for a value when the value has come. A
value where an entry in braces may begin is a key without a value. -/
def give? (value : Yaml) : Open → Option Open
  | .document | .content => some (.complete value)
  | .item done => some (.items (value :: done))
  | .flatItem done => some (.flatItems (value :: done))
  | .entryKey done => some (.entryMark done value)
  | .entryValue done key => some (.entries ((key, value) :: done))
  | .bracketItem done => some (.bracketItems (value :: done))
  | .pairKey done => some (.pairMark done value)
  | .pairValue done key => some (.bracketItems (.map [(key, value)] :: done))
  | .braceEntry done => some (.braceEntries ((value, nothing) :: done))
  | .braceKey done => some (.braceMark done value)
  | .braceValue done key => some (.braceEntries ((key, value) :: done))
  | _ => none

/-- Whether the value that is waited for was left out, as the next token shows. -/
def lacks : Open → Token → Bool
  | .item _, token => token == .dash || token == .blockEnd
  | .flatItem _, token =>
    token == .dash || token == .key || token == .value || token == .blockEnd
  | .entryKey _, token | .entryValue _ _, token =>
    token == .key || token == .value || token == .blockEnd
  | .pairValue _ _, token => token == .comma || token == .closeList
  | .braceKey _, token => token == .value || token == .comma || token == .closeMap
  | .braceValue _ _, token => token == .comma || token == .closeMap
  | .content, token => token == .documentEnd
  | _, _ => false

/-- Nothing stands in for a value that was left out. -/
def fill (waiting : Open) (token : Token) : Open :=
  if waiting.lacks token then (waiting.give? nothing).getD waiting else waiting

/-- A key that no value mark follows has no value. -/
def unmarked (waiting : Open) (token : Token) : Open :=
  match waiting with
  | .entryMark done key => if token == .value then waiting else .entries ((key, nothing) :: done)
  | .pairMark done key =>
    if token == .value then waiting else .bracketItems (.map [(key, nothing)] :: done)
  | .braceMark done key =>
    if token == .value then waiting else .braceEntries ((key, nothing) :: done)
  | _ => waiting

/-- The value of something that a token ends. -/
def closed? : Open → Token → Option Yaml
  | .items done, .blockEnd => some (.list done.reverse)
  | .entries done, .blockEnd => some (.map done.reverse)
  | .bracketItem done, .closeList => some (.list done.reverse)
  | .bracketItems done, .closeList => some (.list done.reverse)
  | .braceEntry done, .closeMap => some (.map done.reverse)
  | .braceEntries done, .closeMap => some (.map done.reverse)
  | _, _ => none

/-- What a token that is a mark makes of something that waits for it. Right after the
key mark of an entry without braces, a value mark, a comma or a bracket is passed
over. -/
def mark? : Open → Token → Option Open
  | .document, .documentStart => some .content
  | .complete value, .documentEnd => some (.complete value)
  | .items done, .dash => some (.item done)
  | .flatItems done, .dash => some (.flatItem done)
  | .entries done, .key => some (.entryKey done)
  | .entryMark done key, .value => some (.entryValue done key)
  | .bracketItem done, .key => some (.pairKey done)
  | .bracketItems done, .comma => some (.bracketItem done)
  | .pairKey done, .value => some (.pairMark done nothing)
  | .pairKey done, .comma => some (.pairMark done nothing)
  | .pairKey done, .closeList => some (.pairMark done nothing)
  | .pairMark done key, .value => some (.pairValue done key)
  | .braceEntry done, .key => some (.braceKey done)
  | .braceEntries done, .comma => some (.braceEntry done)
  | .braceMark done key, .value => some (.braceValue done key)
  | _, _ => none

/-- The list or map that a token opens where a value is waited for. -/
def opened? : Open → Token → Option Open
  | _, .listStart => some (.items [])
  | _, .mapStart => some (.entries [])
  | _, .openList => some (.bracketItem [])
  | _, .openMap => some (.braceEntry [])
  | .entryKey _, .dash => some (.flatItem [])
  | .entryValue _ _, .dash => some (.flatItem [])
  | _, _ => none

/-- Whether a value is waited for. -/
def awaitsValue (waiting : Open) : Bool :=
  (waiting.give? nothing).isSome

end Open

/-- Gives a value to the innermost of what is open. -/
def deliver (value : Yaml) : List Open → Option (List Open)
  | [] => none
  | waiting :: outer => (waiting.give? value).map (· :: outer)

/-- Ends a list that is not indented when no dash follows. -/
def endFlatItems (stack : List Open) (token : Token) : Option (List Open) :=
  match stack with
  | .flatItems done :: outer =>
    if token == .dash then some stack else deliver (.list done.reverse) outer
  | _ => some stack

/-- Changes the innermost of what is open. -/
def changeTop (f : Open → Open) : List Open → List Open
  | [] => []
  | waiting :: outer => f waiting :: outer

/-- Takes a token once everything left out before it has been filled in. -/
def accept (stack : List Open) (token : Token) : Option (List Open) :=
  match stack with
  | [] => none
  | waiting :: outer =>
    match waiting.closed? token, waiting.mark? token with
    | some value, _ => deliver value outer
    | none, some next => some (next :: outer)
    | none, none =>
      if waiting.awaitsValue then
        match token with
        | .scalar text plain => deliver (.scalar text plain) stack
        | _ => (waiting.opened? token).map (· :: stack)
      else none

/-- Takes a token. -/
def step (stack : List Open) (token : Token) : Option (List Open) := do
  let filled ← endFlatItems (changeTop (·.fill token) stack) token
  accept (changeTop (·.unmarked token) filled) token

/-- The value of the only document, which may be missing. -/
def ofTokens? (tokens : List Token) : Option (Option Yaml) :=
  match tokens.foldlM step [.document] with
  | some [.document] => some none
  | some [.content] => some (some nothing)
  | some [.complete value] => some (some value)
  | _ => none

/-- Reads a text that holds at most one document. A text without a document has no
value. -/
def read? (source : String) : Option (Option Yaml) :=
  (tokens? source).bind ofTokens?

end CrossStitch.Yaml
