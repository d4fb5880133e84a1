import Std.Data.ExtTreeMap
import CrossStitch.Colour.Floss
import CrossStitch.Colour.Keyword

/-! Colour tables. A palette names a colour by a name the table knows or by a
literal value. Names in the table win over the keywords, the keywords over taking
the text as a literal, and the reserved value for "no colour" is never looked up. -/

namespace CrossStitch

/-- The reserved colour: a symbol with this colour takes its place in the chart
but is not stitched. -/
def noColour : String := "NONE"

/-- Names with their colours, and whether keywords are understood besides. -/
structure ColourTable where
  named : Std.ExtTreeMap String String
  keywords : Bool

namespace ColourTable

/-- A table that knows no name. -/
def empty : ColourTable := ⟨∅, false⟩

/-- The table, with the keywords understood. -/
def withKeywords (table : ColourTable) : ColourTable :=
  { table with keywords := true }

/-- The table with one more name; an earlier meaning of the name is lost. -/
def insert (table : ColourTable) (name value : String) : ColourTable :=
  { table with named := table.named.insert name value }

/-- The names inserted in order. -/
def extend (table : ColourTable) (names : List (String × String)) : ColourTable :=
  names.foldl (fun t entry => t.insert entry.1 entry.2) table

/-- The floss colours, with the keywords understood. -/
def builtin : ColourTable :=
  empty.withKeywords.extend (Colour.floss.map fun entry => (entry.1, entry.2.css))

/-- The colour a name stands for. -/
def resolve (table : ColourTable) (name : String) : Option String :=
  match table.named[name]? with
  | some value => some value
  | none => if table.keywords then (Colour.keyword? name).map Colour.Rgb.css else none

/-- The colour a name stands for, or the name itself taken as a literal colour. -/
def resolveOrLiteral (table : ColourTable) (name : String) : String :=
  if name = noColour then name else (table.resolve name).getD name

end ColourTable

/-- What a name stands for, if it is known. -/
abbrev Resolver := String → Option String

namespace Resolver

/-- The colour a name stands for, or the name itself taken as a literal colour. -/
def resolveOrLiteral (resolver : Resolver) (name : String) : String :=
  if name = noColour then name else (resolver name).getD name

/-- A table of the resolver's answers to some names. -/
def tabulate (resolver : Resolver) : List String → ColourTable
  | [] => .empty
  | name :: names =>
    match resolver name with
    | none => tabulate resolver names
    | some value => (tabulate resolver names).insert name value

end Resolver

end CrossStitch
