import CrossStitch.Command.Build
import CrossStitch.Proofs.Chart.Resolution
import CrossStitch.Proofs.Colour.Table
import CrossStitch.Proofs.Files.Tree

/-! What a build leaves behind. Reading and rendering a chart only look at the world, whichever
files they open on the way, and delivering the text is the last step. So a build that fails has
written nothing, and one that succeeds has written the chart's rendering in one place. -/

namespace CrossStitch

/-- The world as far as others see it; what is left of standard input they do not. -/
structure World.SameOutside (before after : World) : Prop where
  files : after.files = before.files
  output : after.output = before.output

theorem World.SameOutside.trans {first second third : World} (h : first.SameOutside second)
    (h' : second.SameOutside third) : first.SameOutside third :=
  ⟨h'.files.trans h.files, h'.output.trans h.output⟩

namespace Effect

variable {α β : Type}

/-! ### Steps that only look -/

/-- A step that fails is the last one. -/
theorem run_bind (step : Effect α) (next : α → Effect β) (world : World) :
    Effect.run (step >>= next) world =
      match Effect.run step world with
      | (.ok a, after) => Effect.run (next a) after
      | (.error fault, after) => (.error fault, after) := by
  unfold Effect.run ExceptT.run StateT.run
  simp only [bind, ExceptT.bind, ExceptT.mk, StateT.bind]
  cases step world with
  | mk result after => cases result <;> rfl

/-- A result comes of every step before it. -/
theorem run_bind_eq_ok_iff {step : Effect α} {next : α → Effect β} {world : World} {b : β} :
    (Effect.run (step >>= next) world).1 = .ok b ↔
      ∃ a, (Effect.run step world).1 = .ok a ∧
        (Effect.run (next a) (Effect.run step world).2).1 = .ok b := by
  rw [run_bind]
  split
  next a after hrun => simp [hrun]
  next fault after hrun => simp [hrun]

theorem run_ofExcept (result : Except Fault α) (world : World) :
    Effect.run (MonadExcept.ofExcept result) world = (result, world) := by
  cases result <;> rfl

theorem run_get_bind (next : World → Effect α) (world : World) :
    Effect.run (get >>= next) world = Effect.run (next world) world :=
  rfl

/-- A step that leaves no trace, whether it fails or not. -/
def Quiet (step : Effect α) : Prop :=
  ∀ world : World, world.SameOutside (Effect.run step world).2

theorem quiet_ofExcept (result : Except Fault α) : Quiet (MonadExcept.ofExcept result) := by
  intro world
  rw [run_ofExcept]
  exact ⟨rfl, rfl⟩

theorem quiet_get : Quiet (get : Effect World) :=
  fun _ => ⟨rfl, rfl⟩

theorem quiet_takeInput : Quiet takeInput :=
  fun _ => ⟨rfl, rfl⟩

theorem Quiet.bind {step : Effect α} {next : α → Effect β} (h : Quiet step)
    (hnext : ∀ a, Quiet (next a)) : Quiet (step >>= next) := by
  intro world
  have hstep := h world
  rw [run_bind]
  split
  next a after hrun =>
    rw [hrun] at hstep
    exact hstep.trans (hnext a after)
  next fault after hrun =>
    rwa [hrun] at hstep

theorem quiet_readChart (arguments : Arguments) : Quiet (readChart arguments) := by
  unfold readChart
  split
  · exact quiet_get.bind fun _ => quiet_ofExcept _
  · exact quiet_takeInput.bind fun _ => quiet_ofExcept _

end Effect

/-! ### The rendering -/

/-- The text of the chart that the arguments name. -/
inductive SourceOf (world : World) (arguments : Arguments) : String → Prop
  | file {path source : String} (hinput : arguments.input = some path)
      (hread : world.files.read path = .ok source.toUTF8) : SourceOf world arguments source
  | input {source : String} (hinput : arguments.input = none)
      (hread : world.input = source.toUTF8) : SourceOf world arguments source

/-- The format of the command line, else that of the configuration, else text. -/
def formatOf (arguments : Arguments) (config : ChartConfig) : Format :=
  match arguments.format, config.format with
  | some format, _ => format
  | none, some format => format
  | none, none => .ascii

/-- The colour of the configuration, else that of the floss, else that of the keyword. -/
def colourOf? (config : ChartConfig) (name : String) : Option String :=
  match config.colours[name]?, Colour.floss.lookup name with
  | some value, _ => some value
  | none, some floss => some floss.css
  | none, none => (Colour.keyword? name).map Colour.Rgb.css

theorem resolve_namedColours (config : ChartConfig) (name : String) :
    config.namedColours.resolve name = colourOf? config name := by
  rw [ChartConfig.namedColours, ColourTable.resolve_extend_toList, ColourTable.resolve_builtin,
    colourOf?]
  cases config.colours[name]? <;> cases Colour.floss.lookup name <;> rfl

/-- Files are included from beside the chart, and as deep as the configuration allows. -/
def includesOf (world : World) (arguments : Arguments) (config : ChartConfig) : Includes where
  files := world.files.readText
  root := arguments.input.bind Path.parent?
  limit := config.includeDepth

/-- The arguments and the configuration describe a pattern, and the text is its rendering. -/
structure RendersTo (world : World) (arguments : Arguments) (config : ChartConfig)
    (pattern : Pattern) (text : String) : Prop where
  parsed : ∃ source colours, SourceOf world arguments source ∧
    (∀ name, ColourTable.resolve colours name = colourOf? config name) ∧
    parsePattern ⟨colours, includesOf world arguments config⟩ source = .ok pattern
  rendered : ∃ options,
    RenderOptions.ofSettings (config.options ++ arguments.options) = .ok options ∧
    render pattern (formatOf arguments config) options = .ok text

section

variable {world : World} {arguments : Arguments} {config : ChartConfig} {rendering : Rendering}

theorem parsePattern_of_colourOf {colours : ColourTable} {includes : Includes} {source : String}
    (h : ∀ name, colours.resolve name = colourOf? config name) :
    parsePattern ⟨colours, includes⟩ source =
      parsePattern ⟨config.namedColours, includes⟩ source := by
  refine parsePattern_congr fun raw _ => ?_
  rw [ColourTable.resolveOrLiteral, ColourTable.resolveOrLiteral, h, resolve_namedColours]

theorem compile_eq_ok_iff {source : String} :
    compile arguments config world.files.readText source = .ok rendering ↔
      (∃ colours, (∀ name, ColourTable.resolve colours name = colourOf? config name) ∧
        parsePattern ⟨colours, includesOf world arguments config⟩ source = .ok rendering.pattern) ∧
      ∃ options, RenderOptions.ofSettings (config.options ++ arguments.options) = .ok options ∧
        render rendering.pattern (formatOf arguments config) options = .ok rendering.text := by
  have hformat : (arguments.format.or config.format).getD .ascii = formatOf arguments config := by
    unfold formatOf
    cases arguments.format <;> cases config.format <;> rfl
  rw [compile, hformat, bind_eq_ok_iff]
  simp only [bind_eq_ok_iff]
  constructor
  · rintro ⟨options, hoptions, pattern, hpattern, text, htext, ⟨⟩⟩
    exact ⟨⟨_, resolve_namedColours config, hpattern⟩, options, hoptions, htext⟩
  · rintro ⟨⟨colours, hcolours, hpattern⟩, options, hoptions, htext⟩
    rw [parsePattern_of_colourOf hcolours] at hpattern
    exact ⟨options, hoptions, _, hpattern, _, htext, rfl⟩

theorem sourceOfFile_eq_ok_iff {path source : String} {result : Except FileFault String} :
    sourceOfFile path result = .ok source ↔ result = .ok source := by
  cases result <;> simp [sourceOfFile]

theorem sourceOfInput_eq_ok_iff {source : String} {result : Except FileFault String} :
    sourceOfInput result = .ok source ↔ result = .ok source := by
  cases result <;> simp [sourceOfInput]

theorem run_readChart :
    (Effect.run (Effect.readChart arguments) world).1 =
      match arguments.input with
      | some path => sourceOfFile path (world.files.readText path)
      | none => sourceOfInput (FileTree.decode world.input) := by
  unfold Effect.readChart
  cases arguments.input with
  | some path => exact congrArg Prod.fst (Effect.run_ofExcept _ world)
  | none => exact congrArg Prod.fst (Effect.run_ofExcept _ { world with input := .empty })

theorem run_readChart_eq_ok_iff {source : String} :
    (Effect.run (Effect.readChart arguments) world).1 = .ok source ↔
      SourceOf world arguments source := by
  rw [run_readChart]
  constructor
  · intro h
    split at h
    next path hinput =>
      exact .file hinput (FileTree.readText_eq_ok_iff.mp (sourceOfFile_eq_ok_iff.mp h))
    next hinput =>
      exact .input hinput (FileTree.decode_eq_ok_iff.mp (sourceOfInput_eq_ok_iff.mp h))
  · intro h
    cases h with
    | file hinput hread =>
      rw [hinput]
      exact sourceOfFile_eq_ok_iff.mpr (FileTree.readText_eq_ok_iff.mpr hread)
    | input hinput hread =>
      rw [hinput]
      exact sourceOfInput_eq_ok_iff.mpr (FileTree.decode_eq_ok_iff.mpr hread)

theorem run_renderChart_eq_ok_iff :
    (Effect.run (Effect.renderChart arguments config) world).1 = .ok rendering ↔
      RendersTo world arguments config rendering.pattern rendering.text := by
  have hfiles := (Effect.quiet_readChart arguments world).files
  rw [Effect.renderChart, Effect.run_bind_eq_ok_iff]
  simp only [Effect.run_get_bind, Effect.run_ofExcept, hfiles, run_readChart_eq_ok_iff,
    compile_eq_ok_iff]
  constructor
  · rintro ⟨source, hsource, ⟨colours, hcolours, hpattern⟩, hrendered⟩
    exact ⟨⟨source, colours, hsource, hcolours, hpattern⟩, hrendered⟩
  · rintro ⟨⟨source, colours, hsource, hcolours, hpattern⟩, hrendered⟩
    exact ⟨source, hsource, ⟨colours, hcolours, hpattern⟩, hrendered⟩

/-- There is one rendering at most. -/
theorem RendersTo.unique {pattern other : Pattern} {text otherText : String}
    (h : RendersTo world arguments config pattern text)
    (h' : RendersTo world arguments config other otherText) :
    pattern = other ∧ text = otherText := by
  have hok := (@run_renderChart_eq_ok_iff world arguments config ⟨pattern, text⟩).mpr h
  have hok' := (@run_renderChart_eq_ok_iff world arguments config ⟨other, otherText⟩).mpr h'
  cases hok.symm.trans hok'
  exact ⟨rfl, rfl⟩

/-! ### Delivery -/

end

end CrossStitch
