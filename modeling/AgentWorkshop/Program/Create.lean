import AgentWorkshop.Project.Create
import AgentWorkshop.Release
import AgentWorkshop.Toolchain

/-!
# The program `wasp`

`wasp create` looks for a newer release, checks the required tools, asks for a
name and a template and makes a project of them. It ends normally if all that
succeeds and with status 1 otherwise.
-/

namespace AgentWorkshop

/-- What the user answers to a question. -/
inductive Response where
  | words (t : Text)
  /-- What the question proposes. -/
  | usual
  | interruption
  deriving DecidableEq, Repr

namespace CreateProgram

/-- How the program is used. -/
def usage : Text :=
  text "\n[yellow]Usage: wasp create[/yellow]\n\n[cyan]Available commands:[/cyan]\n" ++
    text "  create    Create a new UOMI agent project\n"

/-- The response to a question, with the responses that are left. -/
def ask (question usual : Text) (choices : Option (List Text)) (responses : List Response) :
    Action (Text × List Response) := do
  Action.display (.ask question usual choices)
  match responses with
  | [] => throw .endOfInput
  | .words t :: rest => pure (t, rest)
  | .usual :: rest => pure (usual, rest)
  | .interruption :: _ => throw .interrupted

/-- The question for a name. -/
def nameQuestion : Text := text "What is your project name?"

/-- The question for a template. -/
def templateQuestion : Text := text "Which template would you like to use?"

/-- Asks for a name until one is accepted. -/
def askName : List Response → Action (Text × List Response)
  | [] => ask nameQuestion ProjectName.usual none []
  | response :: rest => do
    let (name, _) ← ask nameQuestion ProjectName.usual none [response]
    match ProjectName.check name with
    | .ok name => pure (name, rest)
    | .error f =>
      Action.display (Notice.error f.message)
      askName rest

/-- Asks for a template. -/
def askTemplate (responses : List Response) : Action Template := do
  let labels := Template.all.map Template.label
  let (label, _) ← ask templateQuestion Template.llmChat.label (some labels) responses
  match Template.ofLabel? label with
  | some template => pure template
  | none => throw (.unknownTemplate label)

/-- Asks what to make. -/
def askChoice (responses : List Response) : Action ProjectChoice := do
  let (name, rest) ← askName responses
  let template ← askTemplate rest
  return { name, template }

/-- Makes a project, from the look for a newer release to the advice on what to do next. -/
def createProject (settings : ScaffoldSettings) (reply : Reply) (responses : List Response) :
    Action Unit := do
  if settings.checkUpdates then
    let _ ← Release.check reply Release.present settings.distribution
  Action.display (Notice.header (text "UOMI Agent Development Environment Setup")
    (text "wasp " ++ Release.present))
  Action.display (.status (text "Checking prerequisites..."))
  Toolchain.check settings.minNodeMajor
  Action.display (Notice.success (text "Prerequisites met!"))
  let choice ← askChoice responses
  let _ ← Project.create settings (← get).here choice.template choice.name
  Action.print (text "\n[cyan]Next steps:[/cyan]")
  Action.print (text "  1. cd " ++ choice.name)
  Action.print (text "  2. npm run start\n")
  Action.print (text "Start building your UOMI agent!")

/-- The numbered remedies. -/
def remedyLines (remedies : List Text) : List Event :=
  (remedies.zipIdx 1).map fun (remedy, n) =>
    .line (text "  " ++ Text.ofNat n ++ text ". " ++ remedy)

/-- What the user is told about a failure. -/
def report (debug : Bool) : Failure → List Event
  | .tool fault remedies =>
    Notice.error (text "Missing prerequisites: " ++ fault.message) ::
      Notice.warning (text "Please ensure you have installed:") :: remedyLines remedies
  | .interrupted => [Notice.warning (text "Aborted.")]
  | f =>
    if f.isForeseen then
      [Notice.error (text "Error setting up project"), Notice.error f.message]
    else Notice.unhandled f debug

/-- The whole program; the answer is the exit status, if it does not end normally. -/
def start (env : Environment) (arguments : List Text) (reply : Reply) (responses : List Response) :
    Action (Option Nat) := do
  if arguments ≠ [text "create"] then
    Action.print usage
    return some 1
  let settings := Settings.ofEnvironment env
  match ← Action.attempt (createProject settings.scaffold reply responses) with
  | .ok () => pure none
  | .error f =>
    Action.displayAll (report settings.debug f)
    pure (some 1)

end CreateProgram

end AgentWorkshop
