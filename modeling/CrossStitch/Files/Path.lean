/-! Path text: its segments between slashes, and the three ways the program makes
one path from another. Empty segments and `.` name nothing, except that a relative
path may start with `.`; `..` is kept, since what it leads to depends on the files. -/

namespace CrossStitch.Path

/-- The text between the slashes, empty parts included, latest character of the
current part first. -/
def segmentsFrom (part : List Char) : List Char → List (List Char)
  | [] => [part.reverse]
  | c :: rest =>
    if c = '/' then part.reverse :: segmentsFrom [] rest else segmentsFrom (c :: part) rest

/-- The segments of a path; there is always at least one. -/
def segments (path : String) : List String :=
  (segmentsFrom [] path.toList).map String.ofList

def ofSegments (parts : List String) : String :=
  String.intercalate "/" parts

/-- Whether a segment names nothing. -/
def isIdle (segment : String) : Bool :=
  segment == "" || segment == "."

def isAbsolute (path : String) : Bool :=
  path.toList.head? == some '/'

def endsInSlash (path : String) : Bool :=
  path.toList.getLast? == some '/'

/-- `path` seen from `base`. An absolute path is the same from everywhere. -/
def join (base path : String) : String :=
  if isAbsolute path || base.isEmpty then path
  else if endsInSlash base then base ++ path
  else base ++ "/" ++ path

/-- The segments without the idle ones at the end, where `first` tells whether the
list starts the path, so that a `.` in front of it counts. -/
def dropIdleEnd (first : Bool) : List String → List String
  | [] => []
  | s :: rest =>
    match dropIdleEnd false rest with
    | [] => if isIdle s && !(first && s == ".") then [] else [s]
    | kept => s :: kept

/-- The directory a path lies in: the path without its last name. The root and the
empty path lie in no directory. -/
def parent? (path : String) : Option String :=
  if isAbsolute path then
    match dropIdleEnd false (segments path) with
    | [] => none
    | parts => some ("/" ++ ofSegments (dropIdleEnd false parts.dropLast).tail)
  else
    match dropIdleEnd true (segments path) with
    | [] => none
    | parts => some (ofSegments (dropIdleEnd true parts.dropLast))

/-- What is left of `parts` below the names `base`, if `parts` leads through them. -/
def below? : (base parts : List String) → Option (List String)
  | [], parts => some parts
  | _ :: _, [] => none
  | b :: base, p :: parts =>
    if isIdle p then below? (b :: base) parts
    else if p = b then below? base parts
    else none

/-- The path as shown to the user: relative to the working directory when it lies
there, otherwise as it is. The working directory itself is shown as `.`. -/
def display (workingDirectory path : String) : String :=
  if isAbsolute path then
    let base := (segments workingDirectory).filter fun s => !isIdle s
    match below? base (segments path) with
    | none => path
    | some parts =>
      let shown := ofSegments (dropIdleEnd false (parts.dropWhile isIdle))
      if shown.isEmpty then "." else shown
  else path

end CrossStitch.Path
