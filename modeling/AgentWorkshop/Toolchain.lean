import AgentWorkshop.Text.Digit
import AgentWorkshop.Workshop

/-!
# The required tools

A project needs Node of some major version, `rustc` and `cargo`.
`Toolchain.check` asks each of them for its version, in this order and up to
the first that is missing, failing or too old.
-/

namespace AgentWorkshop

namespace Toolchain

/-- What to install when something is missing. -/
def remedies : List Text :=
  [text "Node.js 14 or higher (https://nodejs.org)", text "Rust (https://rustup.rs)"]

/-- The greatest number of digits of a version that is read. -/
def digitLimit : Nat := 4300

/-- The leftmost whole run of decimal digits that a full stop follows. `run`
holds, last first, the digits that stand right before the text. -/
def versionDigitsAfter (run : Text) : Text → Option Text
  | [] => none
  | c :: rest =>
    if c.isDecimalDigit then versionDigitsAfter (c :: run) rest
    else if c = '.' && !run.isEmpty then some run.reverse
    else versionDigitsAfter [] rest

/-- The major version in the output of Node, if it has one. -/
def nodeMajor? (output : Text) : Except Failure (Option Nat) :=
  match versionDigitsAfter [] output.strip with
  | none => .ok none
  | some digits =>
    if digitLimit < digits.length then .error (.tooManyDigits digits.length)
    else .ok (some digits.decimalNat)

/-- The request for the version of a tool. -/
def probe (tool : String) : Invocation :=
  { command := .program [text tool, text "--version"]
    directory := none
    bindings := []
    limit := some (.whole 30) }

/-- Asks a tool for its version. -/
def version (tool : String) : Action Text := do
  match ← Action.launch (probe tool) with
  | .exited code stdout stderr =>
    if code = 0 then pure stdout
    else throw (.tool (.failing (probe tool).command.toText code stderr) remedies)
  | .failed (.system _) => throw (.tool (.missing (text tool)) remedies)
  | .failed f => throw f

/-- A major version that may be unknown is at least the required one. -/
def isEnough (required : Int) : Option Nat → Bool
  | some major => required ≤ major
  | none => false

/-- Checks that all required tools are there. -/
def check (minNodeMajor : Int) : Action Unit := do
  let output ← version "node"
  match nodeMajor? output with
  | .error f => throw f
  | .ok major =>
    if !isEnough minNodeMajor major then throw (.tool (.outdated minNodeMajor output) remedies)
  let _ ← version "rustc"
  let _ ← version "cargo"

end Toolchain

end AgentWorkshop
