import AgentWorkshop.Shell.Arithmetic
import AgentWorkshop.Shell.Place

/-!
# Conditions

The expressions of `test` and `[`: facts about files, texts and integers, with
negation, conjunction and disjunction. A word is an operator only where one can
stand, which depends on the words after it.
-/

namespace AgentWorkshop

namespace Shell

namespace Condition

/-- Why a condition has no value. -/
inductive Fault where
  | notInteger (t : Text)
  | unexpectedOperator (t : Text)
  | missingArgument (operator : Text)
  | unclosed
  deriving DecidableEq, Repr

/-- The wording of a fault. -/
def Fault.message : Fault → Text
  | .notInteger t => text "Illegal number: " ++ t
  | .unexpectedOperator t =>
    (if t.isEmpty then [] else t ++ text ": ") ++ text "unexpected operator"
  | .missingArgument t => t ++ text ": argument expected"
  | .unclosed => text "closing paren expected"

/-- The integer that a text writes. -/
def integer (t : Text) : Except Fault Int :=
  match Arithmetic.integer? true true t with
  | some n => .ok n
  | none => .error (.notInteger t)

/-! ## Operators -/

/-- What a word is at its place. -/
inductive Role where
  | ending
  | unary
  | binary
  | not
  | and
  | or
  | opening
  | closing
  | operand
  deriving DecidableEq, Repr

/-- The operators on one text. -/
def unaryOperators : List Text :=
  ["-r", "-w", "-x", "-e", "-f", "-d", "-c", "-b", "-p", "-u", "-g", "-k", "-s", "-t", "-z", "-n",
    "-h", "-O", "-G", "-L", "-S"].map text

/-- The operators on two texts or integers. -/
def binaryOperators : List Text :=
  ["=", "!=", "<", ">", "-eq", "-ne", "-ge", "-gt", "-le", "-lt", "-nt", "-ot", "-ef"].map text

/-- An operator on one text stands for itself if no operand follows. -/
def isBare : List Text → Bool
  | [] => true
  | [_] => false
  | t :: _ :: _ => binaryOperators.contains t

/-- The role of the first of some words. -/
def roleOf : List Text → Role
  | [] => .ending
  | t :: rest =>
    if binaryOperators.contains t then .binary
    else if t = text "!" then .not
    else if t = text "-a" then .and
    else if t = text "-o" then .or
    else if t = text "(" then (if rest.isEmpty then .operand else .opening)
    else if t = text ")" then .closing
    else if unaryOperators.contains t && !isBare rest then .unary
    else .operand

/-- The value of an operator on one text. -/
def unaryValue (m : Machine) (op argument : Text) : Bool :=
  let spot (follows : Bool) : Option (Address × Kind) :=
    match m.resolveFrom m.process.directory follows argument with
    | .ok (.taken address kind) => some (address, kind)
    | _ => none
  let isOne (k : Kind) : Bool := (spot true).any fun s => s.2 = k
  if op = text "-n" then !argument.isEmpty
  else if op = text "-z" then argument.isEmpty
  else if op = text "-f" then isOne .file && !(spot true).any fun s => devices.contains s.1
  else if op = text "-d" then isOne .directory
  else if op = text "-c" then (spot true).any fun s => devices.contains s.1
  else if op = text "-h" || op = text "-L" then
    match spot false with
    | some (_, .link _) => true
    | _ => false
  else if op = text "-s" then
    match spot true with
    | some (address, .file) => isProgram address || !(m.contentsAt address).isEmpty
    | some _ => true
    | none => false
  else if op = text "-x" then (spot true).any fun s => m.isRunnable s.1
  else if op = text "-k" then (spot true).any fun s => m.modeOf s.1 &&& 0o1000 ≠ 0
  else if op = text "-g" then (spot true).any fun s => m.modeOf s.1 &&& 0o2000 ≠ 0
  else if op = text "-u" then (spot true).any fun s => m.modeOf s.1 &&& 0o4000 ≠ 0
  else (["-e", "-r", "-w", "-O", "-G"].map text).contains op && (spot true).isSome

/-- Two paths lead to the same entry. -/
def areSame (m : Machine) (a b : Text) : Bool :=
  match m.resolveFrom m.process.directory true a, m.resolveFrom m.process.directory true b with
  | .ok (.taken one _), .ok (.taken other _) => one = other
  | _, _ => false

/-- The operators on two integers. -/
def comparison? (op : Text) : Option (Int → Int → Bool) :=
  if op = text "-eq" then some fun a b => a = b
  else if op = text "-ne" then some fun a b => a ≠ b
  else if op = text "-lt" then some fun a b => a < b
  else if op = text "-le" then some fun a b => a ≤ b
  else if op = text "-gt" then some fun a b => b < a
  else if op = text "-ge" then some fun a b => b ≤ a
  else none

/-- The value of an operator on two texts or integers. -/
def binaryValue (m : Machine) (a op b : Text) : Except Fault Bool :=
  if op = text "=" then .ok (a = b)
  else if op = text "!=" then .ok (a ≠ b)
  else if op = text "<" then .ok (!b.precedes a)
  else if op = text ">" then .ok (!a.precedes b)
  else if op = text "-ef" then .ok (areSame m a b)
  else
    match comparison? op with
    | some compare => do
      let a ← integer a
      let b ← integer b
      return compare a b
    | none => .ok false

/-! ## Expressions

A reader gets the words from the one it starts at, and gives its value with the
words from the last one that it took. -/

/-- A reader of conditions. -/
abbrev Reader := Role → List Text → Except Fault (Bool × List Text)

mutual

/-- Conditions joined by `-o`. -/
def disjunction (m : Machine) : (fuel : Nat) → Reader
  | 0, _, ws => .ok (false, ws)
  | fuel + 1, role, ws => do
    let (a, ws) ← conjunction m fuel role ws
    if roleOf (ws.drop 1) = .or then
      let (b, ws) ← disjunction m fuel (roleOf (ws.drop 2)) (ws.drop 2)
      return (a || b, ws)
    else return (a, ws)

/-- Conditions joined by `-a`. -/
def conjunction (m : Machine) : (fuel : Nat) → Reader
  | 0, _, ws => .ok (false, ws)
  | fuel + 1, role, ws => do
    let (a, ws) ← negation m fuel role ws
    if roleOf (ws.drop 1) = .and then
      let (b, ws) ← conjunction m fuel (roleOf (ws.drop 2)) (ws.drop 2)
      return (a && b, ws)
    else return (a, ws)

/-- A condition, perhaps negated. -/
def negation (m : Machine) : (fuel : Nat) → Reader
  | 0, _, ws => .ok (false, ws)
  | fuel + 1, role, ws => do
    if role = .not then
      let next := roleOf (ws.drop 1)
      let (a, ws) ← negation m fuel next (if next = .ending then ws else ws.drop 1)
      return (!a, ws)
    else fact m fuel role ws

/-- One fact, or a condition in parentheses. -/
def fact (m : Machine) : (fuel : Nat) → Reader
  | 0, _, ws => .ok (false, ws)
  | fuel + 1, role, ws =>
    match role, ws with
    | .ending, ws => .ok (false, ws)
    | .opening, _ :: inner => do
      if roleOf inner = .closing then return (false, inner)
      let (a, ws) ← disjunction m fuel (roleOf inner) inner
      if roleOf (ws.drop 1) = .closing then return (a, ws.drop 1)
      else throw .unclosed
    | .unary, [op] => .error (.missingArgument op)
    | .unary, op :: argument :: rest => do
      if op = text "-t" then
        let _ ← integer argument
      return (unaryValue m op argument, argument :: rest)
    | _, a :: rest =>
      if roleOf rest = .binary then
        match rest with
        | op :: b :: after => (binaryValue m a op b).map fun v => (v, b :: after)
        | op :: [] => .error (.missingArgument op)
        | [] => .ok (!a.isEmpty, a :: rest)
      else .ok (!a.isEmpty, a :: rest)
    | _, [] => .ok (false, [])

end

/-- The value of all words as one condition. -/
def whole (m : Machine) (role : Role) (words : List Text) : Except Fault Bool := do
  match ← disjunction m (4 * words.length + 4) role words with
  | (_, t :: _ :: _) => throw (.unexpectedOperator t)
  | (value, _) => return value

/-- The value of a condition's words. Three words with an operator in the
middle are always its operands, and a negation or parentheses around three
or four words are seen first. -/
def value (m : Machine) : (fuel : Nat) → List Text → Except Fault Bool
  | 0, _ => .ok false
  | _, [] => .ok false
  | fuel + 1, words =>
    let outer : Except Fault Bool :=
      match words with
      | first :: rest =>
        if first = text "(" && words.getLast? = some (text ")") then
          whole m (roleOf rest.dropLast) rest.dropLast
        else if first = text "!" then (value m fuel rest).map (!·)
        else whole m (roleOf words) words
      | [] => .ok false
    match words with
    | [_, op, _] => if binaryOperators.contains op then whole m .operand words else outer
    | [_, _, _, _] => outer
    | words => whole m (roleOf words) words

end Condition

end Shell

end AgentWorkshop
