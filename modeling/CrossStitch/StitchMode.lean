/-! The nine ways a colour is stitched onto a cell of the chart or onto one of
its edges. -/

namespace CrossStitch

inductive StitchMode
  | crossStitch
  | topEdge
  | bottomEdge
  | leftEdge
  | rightEdge
  | horizontalLine
  | verticalLine
  /-- From the top left corner to the bottom right corner. -/
  | diagonalBackslash
  /-- From the top right corner to the bottom left corner. -/
  | diagonalSlash
  deriving DecidableEq, Repr

namespace StitchMode

def all : List StitchMode :=
  [crossStitch, topEdge, bottomEdge, leftEdge, rightEdge, horizontalLine, verticalLine,
    diagonalBackslash, diagonalSlash]

/-- The word for the mode in chart source. -/
def token : StitchMode → String
  | crossStitch => "xstitch"
  | topEdge => "topedge"
  | bottomEdge => "bottomedge"
  | leftEdge => "leftedge"
  | rightEdge => "rightedge"
  | horizontalLine => "hline"
  | verticalLine => "vline"
  | diagonalBackslash => "tlbrline"
  | diagonalSlash => "trblline"

/-- The mode a word stands for. -/
def ofToken? (word : String) : Option StitchMode :=
  all.find? fun mode => mode.token = word

/-- The mode's place in the order of the modes. -/
def rank (mode : StitchMode) : Nat :=
  all.idxOf mode

theorem rank_inj {a b : StitchMode} (h : a.rank = b.rank) : a = b := by
  revert h
  cases a <;> cases b <;> decide

/-- Every mode is read back from its own word. -/
theorem ofToken?_token (mode : StitchMode) : ofToken? mode.token = some mode := by
  cases mode <;> decide

end StitchMode

end CrossStitch
