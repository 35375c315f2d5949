import AgentWorkshop.Shell.Regex

/-!
# Editing scripts

A script of `sed` is a list of commands, each for the lines that its address
selects. A command works on the line that was read, on another text that is
held, and on the output.
-/

namespace AgentWorkshop

namespace Shell

namespace Edit

/-- An expression of a script. -/
structure Pattern where
  regex : Regex
  ignoresCase : Bool

/-- Lines that an address means. -/
inductive Mark where
  | line (number : Nat)
  /-- A line, and every so many lines after it. -/
  | step (first every : Nat)
  | last
  /-- Lines in which something is found; without a pattern, what was last looked for. -/
  | found (pattern : Option Pattern)

/-- Where a range of lines ends. -/
inductive Limit where
  | mark (m : Mark)
  /-- After so many lines. -/
  | more (count : Nat)
  /-- At a line whose number is a multiple. -/
  | multiple (of : Nat)

/-- The lines that a command is for. -/
structure Lines where
  first : Option Mark := none
  limit : Option Limit := none
  isInverse : Bool := false

/-- How the letters of a replacement are changed. -/
inductive Casing where
  | same
  | upper
  | lower
  deriving DecidableEq, Repr

/-- A part of a replacement. -/
inductive Part where
  | literal (c : CodePoint)
  /-- What a group matched; 0 is the whole match. -/
  | group (number : Nat)
  /-- The letters from here on. -/
  | casing (c : Casing)
  /-- The next letter. -/
  | nextCasing (c : Casing)

/-- A replacement of what is found in a line. -/
structure Substitution where
  pattern : Option Pattern
  parts : List Part
  /-- All matches from the `count`th one on. -/
  isGlobal : Bool
  count : Nat
  prints : Bool
  /-- The file that gets a line in which something was replaced. -/
  file : Option Text

/-- When a jump is taken. -/
inductive Jump where
  | always
  /-- Something was replaced since a line was read or such a jump was taken. -/
  | replaced
  | notReplaced

/-- What a command does. -/
inductive Action where
  /-- The commands up to the closing brace are for these lines only. -/
  | enter
  | leave
  | label (name : Text)
  | jump (j : Jump) (name : Text)
  | append (t : Text)
  | insert (t : Text)
  | change (t : Text)
  | delete
  | deleteFirst
  | showFile
  | hold (appends : Bool)
  | recall (appends : Bool)
  | exchange
  | list (width : Option Nat)
  | next (appends : Bool)
  | print (onlyFirst : Bool)
  | quit (prints : Bool) (status : Nat)
  | readFile (file : Text)
  | readLine (file : Text)
  | substitute (s : Substitution)
  | write (onlyFirst : Bool) (file : Text)
  | exchangeSigns (pairs : List (CodePoint × CodePoint))
  | clear
  | number

/-- A command of a script. -/
structure Command where
  lines : Lines
  action : Action

/-- The files that a script writes. -/
def Action.target? : Action → Option Text
  | .write _ file => some file
  | .substitute s => s.file
  | _ => none

/-- The label that a command jumps to; without a name it is the end. -/
def Action.jumpLabel? : Action → Option Text
  | .jump _ name => if name.isEmpty then none else some name
  | _ => none

/-- The label that a command is. -/
def Action.label? : Action → Option Text
  | .label name => some name
  | _ => none

/-- The commands after the closing brace, inside so many other braces. -/
def afterBlock : (depth : Nat) → List Command → List Command
  | _, [] => []
  | depth, c :: rest =>
    match c.action, depth with
    | .enter, depth => afterBlock (depth + 1) rest
    | .leave, 0 => rest
    | .leave, depth + 1 => afterBlock depth rest
    | _, depth => afterBlock depth rest

/-- The commands after a label. -/
def afterLabel (name : Text) : List Command → List Command
  | [] => []
  | c :: rest => if c.action.label? = some name then rest else afterLabel name rest

/-! ## Replacing -/

/-- A letter in a casing. -/
def Casing.apply (c : CodePoint) : Casing → CodePoint
  | .same => c
  | .upper => if c.isAsciiSmall then c - 0x20 else c
  | .lower => if c.isAsciiCapital then c + 0x20 else c

/-- The text of a replacement. -/
def expand (groups : List (Nat × Text)) : (now : Casing) → (next : Option Casing) →
    List Part → Text
  | _, _, [] => []
  | now, next, p :: rest =>
    let written (t : Text) : Text := match t with
      | [] => expand groups now next rest
      | c :: more =>
        (next.getD now).apply c :: more.map now.apply ++ expand groups now none rest
    match p with
    | .literal c => written [c]
    | .group n => written ((groups.lookup n).getD [])
    | .casing c => expand groups c none rest
    | .nextCasing c => expand groups now (some c) rest

/-- Replaces matches from an offset on; `previous` is the end of the match before.
The answer tells whether one was replaced. -/
def replaceFrom (p : Pattern) (s : Substitution) (t : Text) :
    (fuel : Nat) → (offset number : Nat) → (previous : Option Nat) → Text × Bool
  | 0, offset, _, _ => (t.drop offset, false)
  | fuel + 1, offset, number, previous =>
    match p.regex.find? p.ignoresCase t offset with
    | none => (t.drop offset, false)
    | some found =>
      let before := (t.drop offset).take (found.start - offset)
      let finish := found.start + found.part.length
      /- An empty match right after another one is none. -/
      if found.part.isEmpty && previous = some found.start then
        let one := (t.drop finish).take 1
        if t.length ≤ finish then (before, false)
        else
          let (rest, isDone) := replaceFrom p s t fuel (finish + 1) number none
          (before ++ one ++ rest, isDone)
      else
        let isMeant := decide (s.count ≤ number)
        let part := if isMeant then
            expand ((0, found.part) :: found.groups) .same none s.parts
          else found.part
        if isMeant && !s.isGlobal then (before ++ part ++ t.drop finish, true)
        else if found.part.isEmpty then
          let one := (t.drop finish).take 1
          if t.length ≤ finish then (before ++ part, isMeant)
          else
            let (rest, isDone) := replaceFrom p s t fuel (finish + 1) (number + 1) none
            (before ++ part ++ one ++ rest, isMeant || isDone)
        else
          let (rest, isDone) := replaceFrom p s t fuel finish (number + 1) (some finish)
          (before ++ part ++ rest, isMeant || isDone)

/-- Replaces what is found in a text. -/
def replace (p : Pattern) (s : Substitution) (t : Text) : Text × Bool :=
  replaceFrom p s t (2 * t.length + 2) 0 1 none

end Edit

end Shell

end AgentWorkshop
