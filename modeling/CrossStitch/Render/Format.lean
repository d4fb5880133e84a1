import CrossStitch.Render.Ascii
import CrossStitch.Render.Html

/-! The formats a chart can be rendered in. -/

namespace CrossStitch

inductive Format
  | ascii
  | html
  deriving DecidableEq, Repr

namespace Format

def name : Format → String
  | .ascii => "ascii"
  | .html => "html"

def ofName? : String → Option Format
  | "ascii" => some .ascii
  | "html" => some .html
  | _ => none

def ofName (name : String) : Except Fault Format :=
  match ofName? name with
  | some format => .ok format
  | none => .error (.unknownFormat name)

end Format

/-- The text of a pattern in a format. -/
def render (pattern : Pattern) (format : Format) (options : RenderOptions) :
    Except Fault String :=
  match format with
  | .ascii => Ascii.render pattern options
  | .html => Html.render pattern

end CrossStitch
