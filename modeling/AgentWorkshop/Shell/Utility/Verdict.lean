import AgentWorkshop.Shell.Condition
import AgentWorkshop.Shell.Utility.Basic

/-!
# Judging conditions

The programs `test` and `[`. How many words a condition has decides how it is
read; only longer ones are read as an expression, from the left to the right.
-/

namespace AgentWorkshop

namespace Shell

namespace Utility

namespace Verdict

/-- A reader of the words of a condition, which knows the place it has come to.
It stops with a complaint. -/
abbrev Reader := EStateM Text Nat

/-- The word at a place. -/
def wordAt? (words : List Text) : Reader (Option Text) := do
  return words[← get]?

/-- The word at a place, so many words on. -/
def ahead (words : List Text) (distance : Nat) : Reader Text := do
  return words.getD ((← get) + distance) []

/-- The words end too early. -/
def missing {α : Type} (words : List Text) : Reader α :=
  throw (text "missing argument after " ++ cited (words.getLast?.getD []))

/-- Goes on to the next word, which may have to be there. -/
def advance (words : List Text) (needed : Bool) : Reader Unit := do
  modify (· + 1)
  if needed && words.length ≤ (← get) then missing words

/-- The word is an operator between two others. -/
def isBinary (t : Text) : Bool :=
  (["=", "==", "!=", "-eq", "-ne", "-lt", "-le", "-gt", "-ge", "-nt", "-ot", "-ef"].map
    text).contains t

/-- The word has the form of an operator before another one. -/
def isFlag : Text → Bool
  | [dash, _] => dash = '-'
  | _ => false

/-- The integer that a word writes, blanks around it. -/
def integer (t : Text) : Reader Int := do
  let body := t.trimBy isGap
  let (negative, digits) := match body with
    | c :: rest =>
      if c = '-' then (true, rest) else if c = '+' then (false, rest) else (false, body)
    | [] => (false, [])
  if digits.isEmpty || !digits.all CodePoint.isAsciiDigit then
    throw (text "invalid integer " ++ cited t)
  let n : Nat := digits.foldl (fun n c => 10 * n + (c.val - 0x30)) 0
  return if negative then -(n : Int) else n

/-- The number of an operand, which may be the length of the word after `-l`. -/
def number (isLength : Bool) (t : Text) : Reader Int :=
  if isLength then pure t.length else integer t

/-- An operator and the word after it. -/
def unary (m : Machine) (words : List Text) : Reader Bool := do
  let op ← ahead words 0
  if !(["-e", "-r", "-w", "-x", "-N", "-O", "-G", "-f", "-d", "-s", "-S", "-c", "-b", "-p", "-L",
      "-h", "-u", "-g", "-k", "-t", "-n", "-z"].map text).contains op then
    throw (cited op ++ text ": unary operator expected")
  advance words true
  let operand ← ahead words 0
  modify (· + 1)
  if op = text "-t" then
    let _ ← integer operand
    return false
  return Condition.unaryValue m op operand

/-- Two operands and the operator between them. -/
def binary (m : Machine) (words : List Text) (leftIsLength : Bool) : Reader Bool := do
  if leftIsLength then advance words false
  let left ← ahead words 0
  let op ← ahead words 1
  let rightIsLength : Bool := (← ahead words 2) = text "-l" && (← get) + 3 < words.length
  if rightIsLength then advance words false
  let right ← ahead words 2
  let holds ← match Condition.comparison? op with
    | some compare => do
      let a ← number leftIsLength left
      let b ← number rightIsLength right
      pure (compare a b)
    | none =>
      let isSame := op = text "=" || op = text "=="
      if isSame || op = text "!=" then pure (isSame = decide (left = right))
      else do
        if leftIsLength || rightIsLength then throw (op ++ text " does not accept -l")
        let isThere (path : Text) : Bool := Condition.unaryValue m (text "-e") path
        if op = text "-nt" then pure (isThere left && !isThere right)
        else if op = text "-ot" then pure (isThere right && !isThere left)
        else pure (Condition.areSame m left right)
  modify (· + 3)
  return holds

/-- One word, which holds if it is not empty. -/
def single (words : List Text) : Reader Bool := do
  let t ← ahead words 0
  modify (· + 1)
  return !t.isEmpty

/-- Two words. -/
def pair (m : Machine) (words : List Text) : Reader Bool := do
  let first ← ahead words 0
  if first = text "!" then
    advance words false
    return !(← single words)
  else if isFlag first then unary m words
  else missing words

/-- How many words stand before the closing parenthesis, or all if it is far. -/
def spanOf (words : List Text) (start : Nat) : Nat :=
  let near := (List.range 4).map fun i => words[start + 1 + i]?
  match near.findIdx? fun t => t.isNone || t = some (text ")") with
  | some i => i + 1
  | none => words.length - start

mutual

/-- Three words. -/
def triple (m : Machine) (words : List Text) : (fuel : Nat) → Reader Bool
  | 0 => missing words
  | fuel + 1 => do
    let first ← ahead words 0
    let op ← ahead words 1
    if isBinary op then binary m words false
    else if first = text "!" then
      advance words true
      return !(← pair m words)
    else if first = text "(" && (← ahead words 2) = text ")" then
      advance words false
      let holds ← single words
      advance words false
      return holds
    else if op = text "-a" || op = text "-o" then disjunction m words fuel
    else throw (cited op ++ text ": binary operator expected")

/-- So many words. -/
def condition (m : Machine) (words : List Text) : (fuel : Nat) → (count : Nat) → Reader Bool
  | 0, _ => missing words
  | fuel + 1, count => do
    let first ← ahead words 0
    match count with
    | 1 => single words
    | 2 => pair m words
    | 3 => triple m words fuel
    | 4 =>
      if first = text "!" then
        advance words true
        return !(← triple m words fuel)
      else if first = text "(" && (← ahead words 3) = text ")" then
        advance words false
        let holds ← pair m words
        advance words false
        return holds
      else disjunction m words fuel
    | _ => disjunction m words fuel

/-- Conditions joined by `-o`. -/
def disjunction (m : Machine) (words : List Text) : (fuel : Nat) → Reader Bool
  | 0 => missing words
  | fuel + 1 => do
    let holds ← conjunction m words fuel
    if (← wordAt? words) = some (text "-o") then
      advance words false
      let others ← disjunction m words fuel
      return holds || others
    else return holds

/-- Conditions joined by `-a`. -/
def conjunction (m : Machine) (words : List Text) : (fuel : Nat) → Reader Bool
  | 0 => missing words
  | fuel + 1 => do
    let holds ← term m words fuel
    if (← wordAt? words) = some (text "-a") then
      advance words false
      let others ← conjunction m words fuel
      return holds && others
    else return holds

/-- A fact, a condition in parentheses or a negated one. -/
def term (m : Machine) (words : List Text) : (fuel : Nat) → Reader Bool
  | 0 => missing words
  | fuel + 1 => do
    let start ← get
    let left := words.length - start
    match words[start]? with
    | none => missing words
    | some t =>
      if t = text "!" then
        advance words true
        return !(← term m words fuel)
      else if t = text "(" then
        advance words true
        let holds ← condition m words fuel (spanOf words (start + 1))
        match ← wordAt? words with
        | none => throw (text "')' expected")
        | some closing =>
          if closing ≠ text ")" then throw (text "')' expected, found " ++ cited closing)
        advance words false
        return holds
      else if 4 ≤ left && t = text "-l" && isBinary (← ahead words 2) then binary m words true
      else if 3 ≤ left && isBinary (← ahead words 1) then binary m words false
      else if isFlag t then unary m words
      else single words

end

/-- Judges all words as one condition. -/
def judge (m : Machine) (words : List Text) : Except Text Bool :=
  let reader : Reader Bool := do
    let holds ← condition m words (4 * words.length + 8) words.length
    match ← wordAt? words with
    | some t => throw (text "extra argument " ++ cited t)
    | none => return holds
  if words.isEmpty then .ok false
  else
    match reader.run 0 with
    | .ok holds _ => .ok holds
    | .error complaint _ => .error complaint

end Verdict

/-- Tests a condition; `isBracketed` ones end with a bracket. -/
def test (isBracketed : Bool) : Utility := fun arguments => do
  if isBracketed && arguments.getLast? ≠ some (text "]") then
    complain (text "missing ']'")
    return 2
  match Verdict.judge (← get) (if isBracketed then arguments.dropLast else arguments) with
  | .ok holds => return if holds then 0 else 1
  | .error complaint =>
    complain complaint
    return 2

end Utility

end Shell

end AgentWorkshop
