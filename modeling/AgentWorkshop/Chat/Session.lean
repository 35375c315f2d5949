import AgentWorkshop.Chat.BuildLog
import AgentWorkshop.Chat.Display
import AgentWorkshop.Files.Document
import AgentWorkshop.Settings.Basic
import AgentWorkshop.Text.Lower
import AgentWorkshop.Workshop

/-!
# Conversations with the agent

A turn says something to the agent: the whole history is written to a file, the
agent is built and run, and its answer is read from another file, shown and
remembered. `Session.turn` reports what it foresees and lets anything else
pass; either way the session is idle afterwards. `Session.handle` tells
commands from messages and `Session.converse` works through a list of inputs.
-/

namespace AgentWorkshop

/-- A conversation: its settings, and the directory to build the agent in. -/
structure Session where
  settings : ChatSettings
  /-- The path of the directory to build in, if it is not the current one. -/
  directory : Option Text

/-- What the user does at a prompt. -/
inductive Input where
  | line (t : Text)
  | interruption
  deriving DecidableEq, Repr

namespace Session

/-! ## Building the agent -/

/-- The errors excuse a build that failed. -/
def excuses (settings : ChatSettings) (stderr : Text) : Bool :=
  !settings.compilingMarker.isEmpty && settings.compilingMarker.occursIn stderr

/-- The request to build and run the agent. -/
def invocation (s : Session) : Invocation :=
  { command := .shell s.settings.buildCommand
    directory := s.directory
    bindings := [
      (text "WASP_INPUT_PATH", s.settings.inputPath.toText),
      (text "WASP_OUTPUT_PATH", s.settings.outputPath.toText)]
    limit := none }

/-- What a build wrote. -/
structure BuildOutput where
  stdout : Text
  stderr : Text

/-- The output of a build that succeeded or is excused. -/
def outputOf (settings : ChatSettings) : Outcome → Except Failure BuildOutput
  | .exited code stdout stderr =>
    if code = 0 || excuses settings stderr then .ok ⟨stdout, stderr⟩
    else .error (.command settings.buildCommand code stderr)
  | .failed (.system e) => .error (.command settings.buildCommand (-1) e.message)
  | .failed f => .error f

/-- Builds and runs the agent. -/
def build (s : Session) : Action BuildOutput := do
  match outputOf s.settings (← Action.launch s.invocation) with
  | .ok output => pure output
  | .error f => throw f

/-! ## Turns -/

/-- Adds something said to the history. -/
def say (role : Role) (content : Text) : Action Unit := do
  match (← get).history.say role content with
  | .ok history => modify fun w => { w with history }
  | .error f => throw f

/-- Writes the whole history for the agent. -/
def writeRequest (s : Session) : Action Unit := do
  let payload := (← get).history.payload
  Action.onFiles fun directory => Files.saveJson directory s.settings.inputPath payload

/-- Prints under a heading the lines of a log that tell something. -/
def printLog (heading : String) (log : Text) : Action Unit :=
  match BuildLog.filter log with
  | some lines => Action.print (text heading ++ text "\n" ++ Markup.escape lines)
  | none => pure ()

/-- Reads what the agent wrote. -/
def readResponse (s : Session) : Action Text := do
  let path := s.settings.outputPath
  match ← Action.attempt (Action.onFiles fun directory => Files.readLossy directory path) with
  | .ok raw => pure raw
  | .error (.system e) => throw (.file (.noResponse path e))
  | .error f => throw f

/-- One turn, up to its first failure. -/
def exchange (s : Session) (message : Text) : Action Answer := do
  say .user message
  s.writeRequest
  Action.print (text "\n[cyan]Executing WASM...[/cyan]")
  let output ← s.build
  printLog "[red]Errors:[/red]" output.stderr
  printLog "[bold]Logs:[/bold]" output.stdout
  match Answer.ofText (← s.readResponse) with
  | .error f => throw f
  | .ok answer =>
    Action.print answer.markup
    say .assistant answer.content
    pure answer

/-- The failures that end a turn but not the session. -/
def endsTurnOnly : Failure → Bool
  | .system _ => true
  | f => f.isForeseen

/-- One turn, with its answer unless it failed. -/
def turn (s : Session) (message : Text) : Action (Option Answer) := do
  modify fun w => { w with phase := .processing }
  let outcome ← Action.attempt (s.exchange message)
  modify fun w => { w with phase := .idle }
  match outcome with
  | .ok answer => pure (some answer)
  | .error f =>
    if endsTurnOnly f then
      Action.display (Notice.error (text "Error: " ++ f.message))
      pure none
    else throw f

/-! ## Inputs -/

/-- What a line asks for. -/
inductive Request where
  | exit
  | clear
  | showHistory
  | nothing
  | message
  deriving DecidableEq, Repr

/-- What a line asks for. Commands may be written in any case and between blanks. -/
def requestOf (line : Text) : Request :=
  let word := line.strip.lower
  if word = text "/exit" then .exit
  else if word = text "/clear" then .clear
  else if word = text "/history" then .showHistory
  else if word.isEmpty then .nothing
  else .message

/-- Does what a line asks for; the answer is whether to go on. -/
def handle (s : Session) (line : Text) : Action Bool :=
  match requestOf line with
  | .exit => pure false
  | .clear => do
    modify fun w => { w with history := .empty }
    Action.display (Notice.warning (text "Conversation history cleared"))
    pure true
  | .showHistory => do
    Action.print (text "[blue]Conversation History:[/blue]")
    Action.print (Markup.escape (← get).history.render)
    pure true
  | .nothing => pure true
  | .message => do
    let _ ← s.turn line
    pure true

/-- What the user is told at the start. -/
def help : Text :=
  text "[bold]UOMI Development Environment[/bold]\nType your messages. Use these commands:\n" ++
    text "/clear - Clear conversation history\n/history - Show conversation history\n" ++
    text "/exit - Exit the program\n"

/-- The prompt before a line. -/
def prompt : Text :=
  text "[green]You:[/green] "

/-- Handles inputs until one asks to exit, an interruption or the end, and
gives the inputs left over. -/
def handleAll (s : Session) : List Input → Action (List Input)
  | [] => do
    Action.display (.input prompt)
    Action.print []
    pure []
  | .interruption :: rest => do
    Action.display (.input prompt)
    Action.print []
    pure rest
  | .line t :: rest => do
    Action.display (.input prompt)
    if ← s.handle t then s.handleAll rest else pure rest

/-- A whole conversation. -/
def converse (s : Session) (inputs : List Input) : Action (List Input) := do
  Action.print help
  s.handleAll inputs

end Session

end AgentWorkshop
