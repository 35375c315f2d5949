import AgentWorkshop.Program.Chat
import AgentWorkshop.Program.Create
import AgentWorkshop.Shell.Run

/-!
# The command line

`wasp WORDS` and `wasp-chat WORDS` on a workspace that is held in memory: it
starts with the bundled templates and nothing else, no program but those of
the shell is installed, and there is no network. Answers and messages are the
lines of the standard input. What the tools show is printed as the markup that
it is, and the exit status is theirs.
-/

namespace AgentWorkshop

namespace CommandLine

/-- The directory in which the tools work. -/
def home : Address := [text "home"]

/-- The files at the start. -/
def files : FileTree :=
  Template.install (FileTree.bare.set home .directory)

/-- The variables that settings are read from. -/
def variableNames : List String :=
  ["WASP_TEMPLATE_DIR", "WASP_NO_UPDATE_CHECK", "WASP_INPUT_PATH", "WASP_OUTPUT_PATH",
    "WASP_BUILD_COMMAND", "WASP_COMPILING_MARKER", "WASP_DEBUG"]

/-- The variables that processes need. -/
def surroundings : Environment :=
  [(text "PATH", text "/usr/local/bin:/usr/bin:/bin"), (text "LC_ALL", text "C")]

/-- The workshop at the start. -/
def workshop (env : Environment) : Workshop :=
  Workshop.initial files home fun _ => Shell.runner (env ++ surroundings) home

/-- A text as it is printed, with U+FFFD for lone surrogates. -/
def printed (t : Text) : String :=
  String.ofList (t.map fun c => c.toChar?.getD (Char.ofNat 0xFFFD))

/-- The words for something shown. -/
def lineOf : Event → String
  | .line markup => printed markup
  | .panel body _ => printed body
  | .status words => printed words
  | .input prompt => printed prompt
  | .ask question usual _ => printed (question ++ text " (" ++ usual ++ text ")")
  | .trace failure => printed failure.message
  | .client _ => "Connecting"
  | .fetch address => printed address

/-- What the user answers with a line; an empty one takes what is proposed. -/
def responseOf (t : Text) : Response :=
  if t.isEmpty then .usual else .words t

/-- The workshop after a program, and its exit status. -/
def run (env : Environment) (arguments lines : List Text) : Workshop × Nat :=
  let isChat := arguments.head? = some (text "wasp-chat")
  let act : Action Nat :=
    if isChat then ChatProgram.start env (arguments.drop 1) (lines.map .line)
    else do
      let words := if arguments.head? = some (text "wasp") then arguments.drop 1 else arguments
      let status ← CreateProgram.start env words (.fault .transport) (lines.map responseOf)
      return status.getD 0
  match act (workshop env) with
  | .ok status w => (w, status)
  | .error _ w => (w, 1)

/-- The variables that are set. -/
def readEnvironment : IO Environment := do
  let found ← variableNames.mapM fun name => do
    return (← IO.getEnv name).map fun value => (text name, text value)
  return found.filterMap id

/-- The lines of the standard input. -/
partial def readLines (stdin : IO.FS.Stream) : IO (List Text) := do
  let line ← stdin.getLine
  if line.isEmpty then return []
  let t := (text line).filter fun c : CodePoint => c ≠ '\n'
  return t :: (← readLines stdin)

end CommandLine

end AgentWorkshop

open AgentWorkshop.CommandLine in
/-- Runs one of the two programs, which the first word may name. -/
def main (arguments : List String) : IO UInt32 := do
  let env ← readEnvironment
  let lines ← readLines (← IO.getStdin)
  let (w, status) := run env (arguments.map AgentWorkshop.text) lines
  for event in w.shown do
    IO.println (lineOf event)
  return status.toUInt32
