import AgentWorkshop.Text.Basic

/-!
# Signals

The signals by number and name, with the words for a process that one of them
ended.
-/

namespace AgentWorkshop

namespace Shell

/-- A signal. -/
structure Signal where
  number : Nat
  name : Text
  /-- The words for a process that it ended. -/
  words : Text
  deriving DecidableEq, Repr

namespace Signal

/-- The signals that have names of their own. -/
def all : List Signal :=
  [(1, "HUP", "Hangup"), (2, "INT", "Interrupt"), (3, "QUIT", "Quit"),
    (4, "ILL", "Illegal instruction"), (5, "TRAP", "Trace/breakpoint trap"),
    (6, "ABRT", "Aborted"), (7, "BUS", "Bus error"), (8, "FPE", "Floating point exception"),
    (9, "KILL", "Killed"), (10, "USR1", "User defined signal 1"),
    (11, "SEGV", "Segmentation fault"), (12, "USR2", "User defined signal 2"),
    (13, "PIPE", "Broken pipe"), (14, "ALRM", "Alarm clock"), (15, "TERM", "Terminated"),
    (17, "CHLD", "Child exited"), (18, "CONT", "Continued"), (19, "STOP", "Stopped (signal)"),
    (20, "TSTP", "Stopped"), (21, "TTIN", "Stopped (tty input)"),
    (22, "TTOU", "Stopped (tty output)"), (23, "URG", "Urgent I/O condition"),
    (24, "XCPU", "CPU time limit exceeded"), (25, "XFSZ", "File size limit exceeded"),
    (26, "VTALRM", "Virtual timer expired"), (27, "PROF", "Profiling timer expired"),
    (28, "WINCH", "Window changed"), (29, "IO", "I/O possible"), (30, "PWR", "Power failure"),
    (31, "SYS", "Bad system call")].map fun (n, name, words) => ⟨n, text name, text words⟩

/-- The greatest number of a signal. -/
def greatest : Nat := 64

/-- The name of a signal; one without a name has its number. -/
def nameOf (number : Nat) : Text :=
  match all.find? fun s => s.number = number with
  | some s => s.name
  | none =>
    if number = 34 then text "RTMIN"
    else if number = greatest then text "RTMAX"
    else if 34 < number && number < 50 then text "RTMIN+" ++ Text.ofNat (number - 34)
    else if 50 ≤ number && number < greatest then text "RTMAX-" ++ Text.ofNat (greatest - number)
    else Text.ofNat number

/-- The signals that end no process. -/
def isHarmless (number : Nat) : Bool :=
  [0, 17, 18, 23, 28].contains number

/-- The signals that only stop a process for a while. -/
def isStop (number : Nat) : Bool :=
  [19, 20, 21, 22].contains number

/-- The signals of which a shell says nothing when they end a process. -/
def isQuiet (number : Nat) : Bool :=
  [2, 13].contains number

/-- The number of the signal that a number or a name stands for. Names are those
from a least number on; 0 is the end of the shell. -/
def number? (least : Nat) (t : Text) : Option Nat :=
  if !t.isEmpty && t.all CodePoint.isAsciiDigit then
    let n := t.foldl (fun n c => 10 * n + (c.val - 0x30)) 0
    if n ≤ greatest then some n else none
  else
    (List.range (greatest + 1)).find? fun n =>
      decide (least ≤ n) &&
        (if n = 0 then text "EXIT" else nameOf n).asciiLower = t.asciiLower

/-- The words for a process that a signal ended. -/
def wordsOf (number : Nat) : Text :=
  match all.find? fun s => s.number = number with
  | some s => s.words
  | none =>
    if 34 ≤ number && number ≤ greatest then text "Real-time signal " ++ Text.ofNat (number - 34)
    else text "Unknown signal " ++ Text.ofNat number

/-- The status of a process that a signal ended. -/
def status (number : Nat) : Nat := 128 + number

end Signal

end Shell

end AgentWorkshop
