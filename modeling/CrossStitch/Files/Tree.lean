import CrossStitch.Files.Fault
import CrossStitch.Files.Path

/-! The files of a system as a value. A path is followed segment by segment, from the
root if it is absolute and otherwise from the working directory, and fails the way the
operating system makes it fail. -/

namespace CrossStitch

inductive Node
  | file (content : ByteArray)
  | folder

/-- Files and folders by the names that lead to them from the root, which is a folder
itself, and the names that lead to where relative paths start. -/
structure FileTree where
  nodes : List (List String × Node)
  workingDirectory : List String

namespace FileTree

/-- Nothing but a working directory. -/
def empty : FileTree := ⟨[(["work"], .folder)], ["work"]⟩

/-- What the names lead to from the root. -/
def node? (tree : FileTree) : List String → Option Node
  | [] => some .folder
  | names => tree.nodes.lookup names

/-- The tree with a node in a place of its own or in place of another. -/
def put (tree : FileTree) (names : List String) (node : Node) : FileTree :=
  { tree with nodes := (names, node) :: tree.nodes.filter fun entry => entry.1 != names }

/-- The tree with a node somewhere below the working directory, and with folders for
everything on the way to it. -/
def putDeep (tree : FileTree) (names : List String) (node : Node) : FileTree :=
  let place := tree.workingDirectory ++ names
  let folders := (List.range place.length).map place.take
  (folders.foldl (fun t above => if (t.node? above).isSome then t else t.put above .folder)
    tree).put place node

/-! ### Following a path -/

/-- The longest name a file can have, and the length a path must stay below, in
bytes. -/
def maxNameLength : Nat := 255
def pathLengthBound : Nat := 4096

/-- Goes down from a folder to a node in it. -/
def enter (tree : FileTree) (place : List String) (name : String) :
    Except FileFault (List String) :=
  if maxNameLength < name.utf8ByteSize then .error .nameTooLong
  else if (tree.node? (place ++ [name])).isSome then .ok (place ++ [name])
  else .error .notFound

/-- Follows names from a place; only from a folder does any name lead on. The root is the
folder above itself. -/
def follow (tree : FileTree) (place : List String) :
    List String → Except FileFault (List String)
  | [] => .ok place
  | name :: rest =>
    match tree.node? place with
    | some .folder =>
      if name = "." then follow tree place rest
      else if name = ".." then follow tree place.dropLast rest
      else
        match tree.enter place name with
        | .error fault => .error fault
        | .ok next => follow tree next rest
    | some (.file _) => .error .notDirectory
    | none => .error .notFound

/-- The names in a path. -/
def names (path : String) : List String :=
  (Path.segments path).filter fun s => s != ""

/-- Where a path starts. -/
def origin (tree : FileTree) (path : String) : List String :=
  if Path.isAbsolute path then [] else tree.workingDirectory

/-- Faults of a path that show before it is followed. -/
def checkPath (path : String) : Except FileFault Unit :=
  if path.toList.contains '\x00' then .error .nulInName
  else if path.isEmpty then .error .notFound
  else if pathLengthBound ≤ path.utf8ByteSize then .error .nameTooLong
  else .ok ()

/-- The node a path leads to. A slash at the end asks for a folder. -/
def find (tree : FileTree) (path : String) : Except FileFault Node := do
  checkPath path
  let place ← tree.follow (tree.origin path) (names path)
  match tree.node? place with
  | some .folder => return .folder
  | some (.file content) =>
    if Path.endsInSlash path then throw .notDirectory else return .file content
  | none => throw .notFound

/-! ### Reading and writing -/

/-- The bytes of a file. -/
def read (tree : FileTree) (path : String) : Except FileFault ByteArray := do
  match ← tree.find path with
  | .file content => return content
  | .folder => throw .isDirectory

/-- Bytes as text. -/
def decode (bytes : ByteArray) : Except FileFault String :=
  match String.fromUTF8? bytes with
  | some text => .ok text
  | none => .error .notText

/-- The text of a file. -/
def readText (tree : FileTree) (path : String) : Except FileFault String := do
  decode (← tree.read path)

def isFile (tree : FileTree) (path : String) : Bool :=
  match tree.find path with
  | .ok (.file _) => true
  | _ => false

/-- The place that a file written to a path takes. Its folder must exist, and it cannot
take the place of a folder. -/
def target (tree : FileTree) (path : String) : Except FileFault (List String) := do
  checkPath path
  match (names path).getLast? with
  | none => throw .isDirectory
  | some name =>
    let above ← tree.follow (tree.origin path) (names path).dropLast
    match tree.node? above with
    | some .folder =>
      if name = "." || name = ".." || Path.endsInSlash path then throw .isDirectory
      if maxNameLength < name.utf8ByteSize then throw .nameTooLong
      match tree.node? (above ++ [name]) with
      | some .folder => throw .isDirectory
      | _ => return above ++ [name]
    | some (.file _) => throw .notDirectory
    | none => throw .notFound

/-- The tree after a file has been written. -/
def write (tree : FileTree) (path : String) (content : ByteArray) : Except FileFault FileTree := do
  return tree.put (← tree.target path) (.file content)

end FileTree

end CrossStitch
