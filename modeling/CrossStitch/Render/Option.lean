import CrossStitch.Fault
import CrossStitch.Text.Cut

/-! Render options, given as `key=value`. -/

namespace CrossStitch

structure RenderOptions where
  /-- Whether the columns of a text chart are left without a separator. -/
  asciiNoDelimiter : Bool
  deriving DecidableEq, Repr

namespace RenderOptions

def default : RenderOptions := ⟨false⟩

def asciiNoDelimiterKey : String := "ascii-no-delimiter"

def readBool : String → Except Fault Bool
  | "true" => .ok true
  | "false" => .ok false
  | _ => .error (.option .notBoolean)

/-- Applies one setting. -/
def set (options : RenderOptions) (setting : String) : Except Fault RenderOptions :=
  match Text.pair? ['='] setting.toList with
  | none => .error (.option .notKeyValue)
  | some (key, value) =>
    if String.ofList key = asciiNoDelimiterKey then
      (readBool (String.ofList value)).map fun flag => { options with asciiNoDelimiter := flag }
    else .error (.option .unknownKey)

/-- Applies settings in order up to the first at fault: the options reached, and
the fault if there was one. A later setting overrides an earlier one. -/
def apply (options : RenderOptions) : List String → RenderOptions × Except Fault Unit
  | [] => (options, .ok ())
  | setting :: rest =>
    match options.set setting with
    | .error fault => (options, .error fault)
    | .ok next => apply next rest

/-- The options that settings make, all of which must be valid. -/
def ofSettings (settings : List String) : Except Fault RenderOptions :=
  match default.apply settings with
  | (_, .error fault) => .error fault
  | (options, .ok ()) => .ok options

end RenderOptions

end CrossStitch
