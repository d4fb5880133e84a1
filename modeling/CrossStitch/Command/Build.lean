import CrossStitch.Command.Arguments
import CrossStitch.Config.Basic
import CrossStitch.Parser

/-! The build: a chart is read, rendered and delivered. What a build can see and change is a
value, the world, and each step of the build hands on the world as it leaves it, whether the
step fails or not. -/

namespace CrossStitch

/-- The files, what can still be read from standard input, and what has been written to
standard output. -/
structure World where
  files : FileTree
  input : ByteArray
  output : String

/-- A step of a build. What it does to the world before it fails stays done. -/
abbrev Effect := ExceptT Fault (StateM World)

/-- What comes of a step, and the world after it. -/
def Effect.run {α : Type} (step : Effect α) (world : World) : Except Fault α × World :=
  StateT.run (ExceptT.run step) world

/-- A count with the word for what is counted. -/
def counted (n : Nat) (one many : String) : String :=
  toString n ++ " " ++ if n = 1 then one else many

/-- A rendered chart. -/
structure Rendering where
  pattern : Pattern
  text : String

/-- The chart's size and the number of its colours. -/
def Rendering.summary (rendering : Rendering) : String :=
  let size := toString rendering.pattern.size
  size ++ "x" ++ size ++ ", " ++ counted rendering.pattern.usage.size "color" "colors"

/-- Includes are sought where the chart file lies. -/
def Arguments.includeRoot? (arguments : Arguments) : Option String :=
  arguments.input.bind Path.parent?

/-- Renders the source of a chart. The command line's format comes before the
configuration's, and text is the format of last resort. -/
def compile (arguments : Arguments) (config : ChartConfig) (files : Files) (source : String) :
    Except Fault Rendering := do
  let format := (arguments.format.or config.format).getD .ascii
  let options ← config.renderOptions arguments.options
  let includes : Includes := ⟨files, arguments.includeRoot?, config.includeDepth⟩
  let pattern ← parsePattern ⟨config.namedColours, includes⟩ source
  return ⟨pattern, ← render pattern format options⟩

/-- The source of the chart, given what reading a file or standard input gives. -/
def sourceOfFile (path : String) : Except FileFault String → Except Fault String
  | .ok source => .ok source
  | .error cause => .error (.file path .readChart cause)

def sourceOfInput : Except FileFault String → Except Fault String
  | .ok source => .ok source
  | .error cause => .error (.standardInput cause)

namespace Effect

/-- Everything that standard input still holds. -/
def takeInput : Effect ByteArray :=
  modifyGet fun world => (world.input, { world with input := ByteArray.empty })

/-- The source of the chart that the arguments name. -/
def readChart (arguments : Arguments) : Effect String := do
  match arguments.input with
  | some path => MonadExcept.ofExcept (sourceOfFile path ((← get).files.readText path))
  | none => MonadExcept.ofExcept (sourceOfInput (FileTree.decode (← takeInput)))

/-- The rendering of that chart. -/
def renderChart (arguments : Arguments) (config : ChartConfig) : Effect Rendering := do
  let source ← readChart arguments
  MonadExcept.ofExcept (compile arguments config (← get).files.readText source)

def print (text : String) : Effect Unit :=
  modify fun world => { world with output := world.output ++ text }

def writeFile (path text : String) : Effect Unit := do
  match (← get).files.write path text.toUTF8 with
  | .ok files => modify fun world => { world with files }
  | .error cause => throw (.file path .writeOutput cause)

/-- Writes a text where the arguments say. -/
def deliver (arguments : Arguments) (text : String) : Effect Unit :=
  match arguments.output with
  | some path => writeFile path text
  | none => print text

/-- Reads, renders and delivers a chart, and gives its summary. -/
def buildChart (arguments : Arguments) (config : ChartConfig) : Effect String := do
  let rendering ← renderChart arguments config
  deliver arguments rendering.text
  return rendering.summary

end Effect

namespace World

/-- Runs a build. -/
def build (world : World) (arguments : Arguments) (config : ChartConfig) :
    World × Except Fault String :=
  ((Effect.buildChart arguments config).run world).swap

/-- Runs a build with the configuration that the arguments name or that lies in the
working directory. -/
def run (world : World) (arguments : Arguments) : World × Except Fault String :=
  match ChartConfig.discover world.files arguments.config "." with
  | .error fault => (world, .error fault)
  | .ok config => world.build arguments config

end World

end CrossStitch
