/-! Cutting a line at a separator. Every rule of the chart language that splits
a line asks for exactly two parts, so the notions needed are the first occurrence
of a separator and whether it is the only one. Occurrences are taken from the left
and do not overlap. -/

namespace CrossStitch.Text

/-- What follows `start` in a text that begins with it. -/
def following? : (start text : List Char) → Option (List Char)
  | [], text => some text
  | _ :: _, [] => none
  | s :: start, c :: text => if s = c then following? start text else none

/-- The text before and after the first occurrence of `separator`. -/
def cut? (separator : List Char) : List Char → Option (List Char × List Char)
  | [] => none
  | c :: rest =>
    match following? separator (c :: rest) with
    | some after => some ([], after)
    | none => (cut? separator rest).map fun parts => (c :: parts.1, parts.2)

/-- Whether `separator` occurs in the text. -/
def occurs (separator text : List Char) : Bool :=
  (cut? separator text).isSome

/-- The two parts of a text in which `separator` occurs exactly once. -/
def pair? (separator text : List Char) : Option (List Char × List Char) :=
  match cut? separator text with
  | some (before, after) => if occurs separator after then none else some (before, after)
  | none => none

end CrossStitch.Text
