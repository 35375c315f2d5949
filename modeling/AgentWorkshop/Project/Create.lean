import AgentWorkshop.Files.Copy
import AgentWorkshop.Files.Document
import AgentWorkshop.Files.Glob
import AgentWorkshop.Project.Choice
import AgentWorkshop.Settings.Basic
import AgentWorkshop.Workshop

/-!
# Making projects

`Project.create` makes a directory, copies a template into it, writes the
project's name into the manifest and runs the commands that set up version
control, packages and the compiler. Each step needs the one before; the first
that fails ends it all, and what was written stays.
-/

namespace AgentWorkshop

namespace Project

/-- Makes the directory of a project, with those above it. -/
def makeDirectory (project : Path) : Action Unit := do
  let made ← Action.attempt
    (Action.onFiles fun here => Files.makeDirectories false here project)
  match made with
  | .ok () => pure ()
  | .error (.system e) =>
    if e.code = Errno.exists.code then throw (.file (.alreadyThere project))
    else throw (.file (.notCreated project e))
  | .error f => throw f

/-- A template is copied without its `.gitignore` and without compiled files,
at every depth. -/
def isLeftOut (settings : ScaffoldSettings) (name : Text) : Bool :=
  (Glob.ofText settings.gitignoreSource).admits name || name = text "__pycache__"

/-- Copies everything below a directory to below another one. The answer lists
what was not copied. -/
def copyAll (settings : ScaffoldSettings) (template project : Path) (here : Address) :
    FileAction (List EntryFault) := do
  match ← Files.find here template, ← Files.find here project with
  | .taken source .directory, .taken goal .directory =>
    Files.copyTree (isLeftOut settings) Files.levelLimit template project source goal
  | _, _ => pure []

/-- Copies a template into a project. -/
def copyTemplate (settings : ScaffoldSettings) (template project : Path) : Action Unit := do
  if !(← Action.onFiles fun here => Files.isDirectory here template) then
    throw (.file (.noTemplate template))
  let copied ← Action.attempt (Action.onFiles fun here => do
    let faults ← copyAll settings template project here
    if !faults.isEmpty then return .error (.entries faults)
    Files.copyFile here (template.child settings.gitignoreSource)
      (project.child (text ".gitignore")))
  match copied with
  | .ok (.ok ()) => pure ()
  | .ok (.error fault) => throw (.file (.notCopied project fault))
  | .error (.system e) => throw (.file (.notCopied project (.system e)))
  | .error f => throw f

/-- The path of a project's manifest. -/
def manifestPath (settings : ScaffoldSettings) (project : Path) : Path :=
  (project.child settings.manifestDir).child settings.manifestName

/-- Writes the project's name for the first placeholder in its manifest. -/
def customize (settings : ScaffoldSettings) (project : Path) (name : Text) : Action Unit := do
  let manifest := manifestPath settings project
  let written ← Action.attempt (Action.onFiles fun here => do
    let t ← Files.readText here manifest
    Files.writeText here manifest (Text.replaceFirst settings.placeholder name t))
  match written with
  | .ok () => Action.display (Notice.success (text "Project files customized"))
  | .error (.system e) => throw (.file (.notCustomized manifest e))
  | .error f => throw f

/-- Runs one command of the set-up. -/
def runStep (words : List Text) (directory : Path) : Action Unit := do
  let command : Command := .program words
  let invocation : Invocation :=
    { command, directory := some directory.toText, bindings := [], limit := none }
  match ← Action.launch invocation with
  | .exited code _ stderr =>
    if code = 0 then pure () else throw (.command command.toText code stderr)
  | .failed (.system e) => throw (.command command.toText (-1) e.message)
  | .failed f => throw f

/-- Makes a project of a name in a directory and gives its path. -/
def create (settings : ScaffoldSettings) (directory : Path) (template : Template) (name : Text) :
    Action Path := do
  let name ← match ProjectName.check name with
    | .ok name => pure name
    | .error f => throw f
  let project := directory.child name
  Action.display (.status (text "Setting up your project..."))
  makeDirectory project
  copyTemplate settings (settings.templateDir.child template.directory) project
  Action.display (.status (text "Customizing project files..."))
  customize settings project name
  Action.display (.status (text "Initializing git repository..."))
  runStep [text "git", text "init"] project
  Action.display (.status (text "Installing dependencies..."))
  runStep [text "npm", text "install"] project
  Action.display (.status (text "Setting up Rust environment..."))
  runStep [text "rustup", text "target", text "add", settings.wasmTarget] directory
  Action.display (Notice.success (text "Project setup complete!"))
  return project

end Project

end AgentWorkshop
