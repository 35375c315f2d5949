import AgentWorkshop.Project.Template
import AgentWorkshop.Settings.Field
import AgentWorkshop.Text.Lower

/-!
# Settings

`ScaffoldSettings` say how projects are made, `ChatSettings` where a
conversation keeps its files and how the agent is built. Both have usual
values, which fields or variables of the environment override.
-/

namespace AgentWorkshop

/-- The variables that a tool is started with. -/
abbrev Environment := List (Text × Text)

namespace Environment

/-- The value of a variable that is set and not empty. -/
def nonEmpty? (env : Environment) (name : Text) : Option Text :=
  (env.lookup name).filter fun t => !t.isEmpty

/-- The values that switch something on. -/
def switchWords : List Text :=
  [text "1", text "true", text "yes", text "on"]

/-- A variable is set to a word that switches something on. -/
def isOn (env : Environment) (name : Text) : Bool :=
  match env.lookup name with
  | some t => switchWords.contains t.lower
  | none => false

end Environment

/-- How projects are made. -/
structure ScaffoldSettings where
  /-- The directory that holds a directory for each template. -/
  templateDir : Path
  /-- The directory of a project that holds its manifest. -/
  manifestDir : Text
  /-- The file name of the manifest. -/
  manifestName : Text
  /-- The words in the manifest that stand for the project's name. -/
  placeholder : Text
  /-- The name under which a template keeps its `.gitignore`. -/
  gitignoreSource : Text
  /-- The compilation target to install. -/
  wasmTarget : Text
  /-- The least major version of Node. -/
  minNodeMajor : Int
  /-- Whether to look for a newer release first. -/
  checkUpdates : Bool
  /-- The name under which releases are published. -/
  distribution : Text

namespace ScaffoldSettings

/-- The usual settings. -/
def usual : ScaffoldSettings :=
  { templateDir := Template.root
    manifestDir := text "agent-template"
    manifestName := text "Cargo.toml"
    placeholder := text "agent-template"
    gitignoreSource := text "gitignore"
    wasmTarget := text "wasm32-unknown-unknown"
    minNodeMajor := 14
    checkUpdates := true
    distribution := text "uomi-wasp" }

/-- The settings that an object gives, usual ones where it gives none. All
refused fields are reported, in the order of the settings. -/
def ofFields (v : Json) : Except Failure ScaffoldSettings :=
  let templateDir := Field.read v (text "template_dir") usual.templateDir Field.toPath
  let manifestDir := Field.read v (text "manifest_dir") usual.manifestDir Field.toText
  let manifestName := Field.read v (text "manifest_name") usual.manifestName Field.toText
  let placeholder := Field.read v (text "placeholder") usual.placeholder Field.toText
  let gitignoreSource :=
    Field.read v (text "gitignore_source") usual.gitignoreSource Field.toText
  let wasmTarget := Field.read v (text "wasm_target") usual.wasmTarget Field.toText
  let minNodeMajor :=
    Field.read v (text "min_node_major") usual.minNodeMajor (Field.toIntegerFrom 1)
  let checkUpdates := Field.read v (text "check_updates") usual.checkUpdates Field.toBoolean
  let distribution := Field.read v (text "distribution") usual.distribution Field.toText
  let settings : Except (Text × FieldFault) ScaffoldSettings := do
    return {
      templateDir := ← templateDir
      manifestDir := ← manifestDir
      manifestName := ← manifestName
      placeholder := ← placeholder
      gitignoreSource := ← gitignoreSource
      wasmTarget := ← wasmTarget
      minNodeMajor := ← minNodeMajor
      checkUpdates := ← checkUpdates
      distribution := ← distribution }
  match settings with
  | .ok s => .ok s
  | .error _ => .error (.badFields
      (Field.fault? templateDir ++ Field.fault? manifestDir ++ Field.fault? manifestName ++
        Field.fault? placeholder ++ Field.fault? gitignoreSource ++ Field.fault? wasmTarget ++
        Field.fault? minNodeMajor ++ Field.fault? checkUpdates ++ Field.fault? distribution))

/-- The settings in an environment. -/
def ofEnvironment (env : Environment) : ScaffoldSettings :=
  { usual with
    templateDir :=
      ((env.nonEmpty? (text "WASP_TEMPLATE_DIR")).map Path.ofText).getD usual.templateDir
    checkUpdates := !env.isOn (text "WASP_NO_UPDATE_CHECK") }

end ScaffoldSettings

/-- Where a conversation keeps its files and how the agent is built. -/
structure ChatSettings where
  /-- The file that the agent reads. -/
  inputPath : Path
  /-- The file that the agent writes. -/
  outputPath : Path
  /-- The line for the shell that builds and runs the agent. -/
  buildCommand : Text
  /-- Words that excuse a failed build whose errors contain them; if empty,
  nothing does. -/
  compilingMarker : Text

namespace ChatSettings

/-- The usual settings. -/
def usual : ChatSettings :=
  { inputPath := .ofText (text "host/src/input.txt")
    outputPath := .ofText (text "host/src/output.txt")
    buildCommand := text "sh ./bin/build_and_run_host.sh"
    compilingMarker := text "Compiling" }

/-- The settings that an object gives, usual ones where it gives none. -/
def ofFields (v : Json) : Except Failure ChatSettings :=
  let inputPath := Field.read v (text "input_path") usual.inputPath Field.toPath
  let outputPath := Field.read v (text "output_path") usual.outputPath Field.toPath
  let buildCommand := Field.read v (text "build_command") usual.buildCommand Field.toText
  let compilingMarker :=
    Field.read v (text "compiling_marker") usual.compilingMarker Field.toText
  let settings : Except (Text × FieldFault) ChatSettings := do
    return {
      inputPath := ← inputPath
      outputPath := ← outputPath
      buildCommand := ← buildCommand
      compilingMarker := ← compilingMarker }
  match settings with
  | .ok s => .ok s
  | .error _ => .error (.badFields
      (Field.fault? inputPath ++ Field.fault? outputPath ++ Field.fault? buildCommand ++
        Field.fault? compilingMarker))

/-- The settings in an environment. An empty marker is a setting, too. -/
def ofEnvironment (env : Environment) : ChatSettings :=
  { inputPath := ((env.nonEmpty? (text "WASP_INPUT_PATH")).map Path.ofText).getD usual.inputPath
    outputPath :=
      ((env.nonEmpty? (text "WASP_OUTPUT_PATH")).map Path.ofText).getD usual.outputPath
    buildCommand := (env.nonEmpty? (text "WASP_BUILD_COMMAND")).getD usual.buildCommand
    compilingMarker :=
      (env.lookup (text "WASP_COMPILING_MARKER")).getD usual.compilingMarker }

end ChatSettings

/-- All settings. -/
structure Settings where
  scaffold : ScaffoldSettings
  chat : ChatSettings
  /-- Whether to show where unforeseen failures come from. -/
  debug : Bool

namespace Settings

/-- The settings of two objects; without one, the usual settings hold. -/
def ofFields (scaffold chat : Option Json) : Except Failure Settings := do
  let scaffold ← match scaffold with
    | some v => ScaffoldSettings.ofFields v
    | none => .ok .usual
  let chat ← match chat with
    | some v => ChatSettings.ofFields v
    | none => .ok .usual
  return { scaffold, chat, debug := false }

/-- The settings in an environment. -/
def ofEnvironment (env : Environment) : Settings :=
  { scaffold := .ofEnvironment env
    chat := .ofEnvironment env
    debug := env.isOn (text "WASP_DEBUG") }

end Settings

end AgentWorkshop
