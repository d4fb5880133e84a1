/-! Markup text, kept in pieces until the end, so that it can be told which parts
are the page's own, which are shielded, and which are inserted as they come. -/

namespace CrossStitch

/-- A character that means something in markup is replaced by its entity. -/
def escapeChar : Char → List Char
  | '<' => "&lt;".toList
  | '>' => "&gt;".toList
  | '&' => "&amp;".toList
  | '"' => "&quot;".toList
  | '\'' => "&#x27;".toList
  | '/' => "&#x2f;".toList
  | c => [c]

def escape (text : String) : String :=
  String.ofList (text.toList.flatMap escapeChar)

/-- A piece of a page. -/
inductive Markup
  /-- Part of the page's frame. -/
  | fixed (text : String)
  /-- Inserted text, shielded. -/
  | shielded (text : String)
  /-- Inserted text that is taken to be markup already. -/
  | trusted (text : String)
  deriving DecidableEq, Repr

def Markup.text : Markup → String
  | .fixed text => text
  | .shielded text => escape text
  | .trusted text => text

/-- The text of a page. -/
def Markup.flatten (pieces : List Markup) : String :=
  String.join (pieces.map Markup.text)

end CrossStitch
