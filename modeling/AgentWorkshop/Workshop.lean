import AgentWorkshop.Chat.History
import AgentWorkshop.Console.Notice
import AgentWorkshop.Process.Basic

/-!
# The workshop — what the tools work on

A `Workshop` is the whole state of a run: the files, the conversation, how
processes behave, and the record of what was shown and started so far. Tools
are `Action`s on it; one that fails keeps what it did before it failed.
-/

namespace AgentWorkshop

/-- Whether a turn of the conversation is under way. -/
inductive Phase where
  | idle
  | processing
  deriving DecidableEq, Repr

namespace Phase

/-- The name of a phase. -/
def toText : Phase → Text
  | idle => text "idle"
  | processing => text "processing"

end Phase

/-- The start of a process, with what it found. -/
structure Launch where
  invocation : Invocation
  /-- The files at that moment. -/
  files : FileTree
  /-- The phase at that moment. -/
  phase : Phase
  /-- What had been said by that moment. -/
  history : History

/-- The state of a run. -/
structure Workshop where
  files : FileTree
  /-- The working directory. -/
  directory : Address
  /-- What the process started after so many others does. -/
  runner : Nat → Runner
  /-- The processes started so far, in order. -/
  launches : List Launch
  /-- What was shown so far, in order. -/
  shown : List Event
  history : History
  phase : Phase

/-- A step of a tool. -/
abbrev Action := EStateM Failure Workshop

namespace Workshop

/-- A run that is about to start. -/
def initial (files : FileTree) (directory : Address) (runner : Nat → Runner) : Workshop :=
  { files, directory, runner, launches := [], shown := [], history := .empty, phase := .idle }

/-- The path of the working directory from the top. -/
def here (w : Workshop) : Path :=
  ⟨.top, w.directory⟩

end Workshop

namespace Action

/-- Shows something. -/
def display (e : Event) : Action Unit :=
  modify fun w => { w with shown := w.shown ++ [e] }

/-- Prints a line of markup. -/
def print (markup : Text) : Action Unit :=
  display (.line markup)

/-- Shows several things. -/
def displayAll (es : List Event) : Action Unit :=
  es.forM display

/-- Works on the files from the working directory. -/
def onFiles {α : Type} (act : Address → FileAction α) : Action α := fun w =>
  match act w.directory w.files with
  | .ok a files => .ok a { w with files }
  | .error f files => .error f { w with files }

/-- What came of an action, failures included. -/
def attempt {α : Type} (act : Action α) : Action (Except Failure α) := fun w =>
  match act w with
  | .ok a w => .ok (.ok a) w
  | .error f w => .ok (.error f) w

/-- Starts a process and waits for it. -/
def launch (invocation : Invocation) : Action Outcome := fun w =>
  let launch : Launch :=
    { invocation, files := w.files, phase := w.phase, history := w.history }
  let (files, outcome) := w.runner w.launches.length invocation w.files
  .ok outcome { w with files, launches := w.launches ++ [launch] }

end Action

end AgentWorkshop
