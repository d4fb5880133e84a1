import CrossStitch.Colour.Rgb

/-! The floss colours: the names every chart may use without declaring them. -/

namespace CrossStitch.Colour

def floss : List (String × Rgb) := [
  ("black", ⟨0, 0, 0⟩),
  ("white", ⟨252, 251, 248⟩),
  ("ecru", ⟨240, 234, 218⟩),
  ("red", ⟨199, 43, 59⟩),
  ("darkred", ⟨167, 19, 43⟩),
  ("pink", ⟨255, 203, 213⟩),
  ("orange", ⟨253, 93, 53⟩),
  ("yellow", ⟨255, 227, 0⟩),
  ("gold", ⟨228, 180, 104⟩),
  ("green", ⟨5, 101, 23⟩),
  ("lightgreen", ⟨136, 186, 145⟩),
  ("blue", ⟨30, 108, 173⟩),
  ("lightblue", ⟨176, 201, 222⟩),
  ("navy", ⟨17, 65, 109⟩),
  ("purple", ⟨99, 54, 102⟩),
  ("lavender", ⟨227, 203, 227⟩),
  ("brown", ⟨152, 94, 51⟩),
  ("tan", ⟨203, 144, 81⟩),
  ("grey", ⟨153, 153, 153⟩),
  ("gray", ⟨153, 153, 153⟩)]

end CrossStitch.Colour
