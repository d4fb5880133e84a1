import CrossStitch.Command.Build
import CrossStitch.Command.Usage

/-! The program on the command line. Only this module touches real files: it reads
them, hands their contents to the pure build, and writes what the build gives. An
include that the build asks for is read and the build started over, until it asks
for no further file. -/

namespace CrossStitch

/-- The system's number for an error, which may come negated. -/
def errorNumber (code : UInt32) : Nat :=
  if code.toNat < 2147483648 then code.toNat else 4294967296 - code.toNat

/-- The fault that a failed file access stands for. -/
def faultOfError (error : IO.Error) : FileFault :=
  match error with
  | .noFileOrDirectory .. => .notFound
  | .inappropriateType _ code _ =>
    if errorNumber code = 20 then .notDirectory else .isDirectory
  | .invalidArgument _ code _ =>
    if errorNumber code = 36 then .nameTooLong else .other (toString error)
  | _ => .other (toString error)

/-- The text of a file. -/
def readFileText (path : String) : IO (Except FileFault String) := do
  try
    return FileTree.decode (← IO.FS.readBinFile path)
  catch error => return .error (faultOfError error)

/-- The configuration that the arguments name, or that of the working directory. -/
def findConfig (arguments : Arguments) (directory : String) : ExceptT Fault IO ChartConfig := do
  match arguments.config with
  | some path => MonadExcept.ofExcept (ChartConfig.ofRead path (← readFileText path))
  | none =>
    let path := Path.join directory configFile
    match ← readFileText path with
    | .error .notFound => return ChartConfig.default
    | .error .isDirectory => return ChartConfig.default
    | result => MonadExcept.ofExcept (ChartConfig.ofRead path result)

/-- The source of the chart. -/
def readSource (arguments : Arguments) : ExceptT Fault IO String := do
  match arguments.input with
  | some path => MonadExcept.ofExcept (sourceOfFile path (← readFileText path))
  | none =>
    let input ← IO.getStdin
    MonadExcept.ofExcept (sourceOfInput (FileTree.decode (← input.readBinToEnd)))

/-- Renders a chart, reading the files it includes as they are asked for; `known`
holds those read so far. -/
partial def compileReading (arguments : Arguments) (config : ChartConfig) (source : String)
    (known : List (String × Except FileFault String)) : ExceptT Fault IO Rendering := do
  let files : Files := fun path => (known.lookup path).getD (.error .notFound)
  match compile arguments config files source with
  | .error (.unreadableInclude path cause trace) =>
    if (known.lookup path).isSome then throw (.unreadableInclude path cause trace)
    else
      if arguments.verbose then IO.eprintln ("including " ++ path)
      compileReading arguments config source ((path, ← readFileText path) :: known)
  | result => MonadExcept.ofExcept result

/-- Writes a rendering where the arguments say. -/
def writeText (arguments : Arguments) (text : String) : ExceptT Fault IO Unit := do
  match arguments.output with
  | none => IO.print text
  | some path =>
    match ← (IO.FS.writeFile path text).toBaseIO with
    | .ok () => return ()
    | .error error => throw (.file path .writeOutput (faultOfError error))

/-- Runs a build and gives its summary. -/
def runBuild (arguments : Arguments) (directory : String) : ExceptT Fault IO String := do
  let config ← findConfig arguments directory
  let source ← readSource arguments
  let rendering ← compileReading arguments config source []
  writeText arguments rendering.text
  return rendering.summary

/-- Runs the program and gives its exit code. -/
def runProgram (line : List String) : IO UInt32 := do
  match readArguments line with
  | .error .displayHelp =>
    IO.print helpText
    return 0
  | .error .displayVersion =>
    IO.println versionText
    return 0
  | .error fault =>
    IO.eprintln ("error: " ++ fault.message)
    return 2
  | .ok arguments =>
    if let some shell := arguments.completions then
      IO.print (completionScript shell)
      return 0
    let directory := toString (← IO.currentDir)
    match ← (runBuild arguments directory).run with
    | .error fault =>
      for traceLine in fault.trace do
        IO.eprintln traceLine
      IO.eprintln ("error: " ++ fault.message)
      if let some help := fault.help? then
        IO.eprintln ("help: " ++ help)
      return 1
    | .ok summary =>
      if let some path := arguments.output then
        IO.eprintln (statusLine (Path.display directory path) summary)
      return 0

end CrossStitch

def main (line : List String) : IO UInt32 :=
  CrossStitch.runProgram line
