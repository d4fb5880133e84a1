/-! A colour given by its red, green and blue parts. -/

namespace CrossStitch.Colour

/-- Each part runs from 0 to 255. -/
structure Rgb where
  red : Nat
  green : Nat
  blue : Nat
  deriving DecidableEq, Repr

/-- The colour as a style sheet value. -/
def Rgb.css (colour : Rgb) : String :=
  "rgb(" ++ toString colour.red ++ ", " ++ toString colour.green ++ ", " ++
    toString colour.blue ++ ")"

end CrossStitch.Colour
