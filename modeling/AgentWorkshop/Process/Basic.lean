import AgentWorkshop.Files.Access

/-!
# Child processes

An `Invocation` says what to start, where and with which variables; a `Runner`
answers it with an `Outcome` and with the files as they are afterwards.
-/

namespace AgentWorkshop

/-- What is started. -/
inductive Command where
  /-- A line for the shell. -/
  | shell (line : Text)
  /-- A program with its arguments. -/
  | program (words : List Text)
  deriving DecidableEq, Repr

namespace Command

/-- The command on one line. -/
def toText : Command → Text
  | shell line => line
  | program words => List.intercalate (text " ") words

end Command

/-- A span of time in seconds. -/
inductive Seconds where
  | whole (n : Nat)
  | real (x : Binary64)
  deriving DecidableEq, Repr

namespace Seconds

/-- The number of seconds. -/
def toText : Seconds → Text
  | whole n => Text.ofNat n
  | real x => x.display (text "nan") (text "inf")

end Seconds

/-- A request to start a process. -/
structure Invocation where
  command : Command
  /-- The path of the directory to start it in, if it is not the current one. -/
  directory : Option Text
  /-- Variables added to the environment. -/
  bindings : List (Text × Text)
  /-- How long it may take. -/
  limit : Option Seconds
  deriving DecidableEq, Repr

/-- What came of a request. -/
inductive Outcome where
  /-- The process ended with this code and wrote these streams. -/
  | exited (code : Int) (stdout stderr : Text)
  /-- There was no process, or nobody waited for its end. -/
  | failed (failure : Failure)

/-- What processes do, given the files they find. -/
abbrev Runner := Invocation → FileTree → FileTree × Outcome

namespace Runner

/-- Processes that succeed, write nothing and leave the files alone. -/
def idle : Runner :=
  fun _ files => (files, .exited 0 [] [])

end Runner

end AgentWorkshop
