import AgentWorkshop.Shell.Regex
import AgentWorkshop.Shell.Utility.Part

/-!
# Searching lines

`grep` selects lines by regular expressions or words and shows them in many ways.
-/

namespace AgentWorkshop

namespace Shell

namespace Utility

/-! ## Patterns -/

/-- What is looked for. -/
structure Query where
  patterns : List Regex
  ignoresCase : Bool
  isInverse : Bool

namespace Query

/-- The leftmost match from an offset on, and of several the longest one. -/
def find? (q : Query) (l : Text) (offset : Nat) : Option Regex.Found :=
  (q.patterns.filterMap fun r => r.find? q.ignoresCase l offset).foldl (fun best found =>
    match best with
    | none => some found
    | some b =>
      if found.start < b.start || (found.start = b.start && b.part.length < found.part.length)
      then some found else best) none

/-- The line is selected. -/
def selects (q : Query) (l : Text) : Bool :=
  (q.patterns.any fun r => (r.find? q.ignoresCase l).isSome) != q.isInverse

/-- The parts of a line that match and are not empty, with their offsets. -/
def partsIn (q : Query) (l : Text) : (fuel : Nat) → (offset : Nat) → List (Nat × Text)
  | 0, _ => []
  | fuel + 1, offset =>
    match q.find? l offset with
    | none => []
    | some found =>
      if found.part.isEmpty then
        if found.start < l.length then q.partsIn l fuel (found.start + 1) else []
      else (found.start, found.part) :: q.partsIn l fuel (found.start + found.part.length)

end Query

/-- The forms in which patterns are written. -/
inductive PatternForm where
  | basic
  | extended
  | words
  deriving DecidableEq

/-- The query that patterns make, with remarks on them. -/
def queryOf (form : PatternForm) (wholeLine wholeWord ignoresCase isInverse : Bool)
    (patterns : List Text) : Except Text (Query × List Text) := do
  let read ← patterns.mapM fun t =>
    if form = .words then .ok (Regex.ofWord t, [])
    else Regex.ofText { isExtended := form = .extended } t
  let around (r : Regex) : Regex :=
    if wholeLine then .sequence (.anchor .start) (.sequence r (.anchor .finish))
    else if wholeWord then .sequence (.anchor .afterWord) (.sequence r (.anchor .beforeWord))
    else r
  return ({ patterns := read.map fun p => around p.1, ignoresCase, isInverse }, read.flatMap (·.2))

/-! ## Showing -/

/-- How selected lines are shown. -/
structure SearchStyle where
  counts : Bool
  names : Bool
  namesOthers : Bool
  isQuiet : Bool
  onlyParts : Bool
  numbers : Bool
  offsets : Bool
  /-- The name of a file stands before each line. -/
  labels : Bool
  before : Nat
  after : Nat
  /-- Contexts are shown. -/
  hasContext : Bool
  most : Option Nat
  stop : CodePoint

/-- The lines of a text with their offsets. -/
def withOffsets (offset : Nat) : List Text → List (Nat × Text)
  | [] => []
  | l :: rest => (offset, l) :: withOffsets (offset + l.length) rest

/-- What stands before a line. -/
def SearchStyle.label (s : SearchStyle) (file : Text) (number offset : Nat) (mark : Char) : Text :=
  (if s.labels then file ++ [CodePoint.ofChar mark] else []) ++
    (if s.numbers then Text.ofNat number ++ [CodePoint.ofChar mark] else []) ++
    if s.offsets then Text.ofNat offset ++ [CodePoint.ofChar mark] else []

/-- The lines to show of a file, and whether a group of them came before. -/
def SearchStyle.render (s : SearchStyle) (q : Query) (file : Text) (isLater : Bool)
    (lines : List (Nat × Text)) (selected : List Nat) : Text :=
  let isSelected (i : Nat) : Bool := selected.contains i
  let isNear (i : Nat) : Bool := selected.any fun n =>
    decide (n ≤ i + s.before) && decide (i ≤ n + s.after)
  let stopped := match s.most with
    | some most => if selected.length = most then selected.getLast?.map (· + s.after) else none
    | none => none
  let shown := lines.zipIdx.filter fun (_, i) =>
    isNear i && stopped.all fun last => decide (i ≤ last)
  let plain (l : Text) : Text := if l.getLast? = some s.stop then l.dropLast else l
  let one (offset : Nat) (l : Text) (i : Nat) : Text :=
    if isSelected i then
      if s.onlyParts then
        if q.isInverse then []
        else (q.partsIn (plain l) (l.length + 1) 0).flatMap fun (at_, part) =>
          s.label file (i + 1) (offset + at_) ':' ++ part ++ [s.stop]
      else s.label file (i + 1) offset ':' ++ plain l ++ [s.stop]
    else if s.onlyParts then []
    else s.label file (i + 1) offset '-' ++ plain l ++ [s.stop]
  (shown.foldl (fun (t, previous) ((offset, l), i) =>
    let breaks := s.hasContext && (match previous with
      | none => isLater
      | some p => decide (p + 1 < i))
    (t ++ (if breaks then text "--\n" else []) ++ one offset l i, some i))
    (([], none) : Text × Option Nat)).1

/-! ## Files -/

/-- The files below a directory, with the paths that lead to them. -/
def filesBelow (m : Machine) : (fuel : Nat) → (path : Text) → Address → List Text
  | 0, _, _ => []
  | fuel + 1, path, address =>
    (m.namesIn address).flatMap fun name =>
      let below := address ++ [name.widen]
      let path := if path.isEmpty then name
        else if path.getLast? = some ('/' : CodePoint) then path ++ name
        else path ++ text "/" ++ name
      match m.kind? below with
      | some .directory => filesBelow m fuel path below
      | some .file => [path]
      | _ => []

/-- How a search is called. -/
def searchUsage (program : Text) (complaint : Text) : Exec Nat := do
  if !complaint.isEmpty then complain complaint
  Exec.complain (text "Usage: " ++ program ++ text " [OPTION]... PATTERNS [FILE]...")
  Exec.complain (text "Try '" ++ program ++ text " --help' for more information.")
  return 2

/-- The options of a search. -/
def searchTable : OptionTable where
  letters := "0123456789A:B:C:D:EFGHILPTUVX:abcd:e:f:hiLlm:noqRrsuvwxyzZ"
  status := 2
  names := [
    ("basic-regexp", .flag, 'G'), ("extended-regexp", .flag, 'E'), ("fixed-strings", .flag, 'F'),
    ("regexp", .value, 'e'), ("file", .value, 'f'), ("ignore-case", .flag, 'i'),
    ("word-regexp", .flag, 'w'), ("line-regexp", .flag, 'x'), ("no-messages", .flag, 's'),
    ("invert-match", .flag, 'v'), ("max-count", .value, 'm'), ("byte-offset", .flag, 'b'),
    ("line-number", .flag, 'n'), ("line-buffered", .flag, 'u'), ("with-filename", .flag, 'H'),
    ("no-filename", .flag, 'h'), ("only-matching", .flag, 'o'), ("quiet", .flag, 'q'),
    ("silent", .flag, 'q'), ("text", .flag, 'a'), ("recursive", .flag, 'r'),
    ("include", .value, 'Y'), ("exclude", .value, 'N'), ("exclude-dir", .value, 'O'),
    ("files-without-match", .flag, 'L'), ("files-with-matches", .flag, 'l'), ("count", .flag, 'c'),
    ("null", .flag, 'Z'), ("before-context", .value, 'B'), ("after-context", .value, 'A'),
    ("context", .value, 'C'), ("color", .maybe, 'K'), ("colour", .maybe, 'K'),
    ("null-data", .flag, 'z'), ("binary-files", .value, 'X'), ("label", .value, 'J'),
    ("no-ignore-case", .flag, 'k'), ("initial-tab", .flag, 'T'), ("perl-regexp", .flag, 'P')]

/-- The patterns of a search from its options and operands, and the files. -/
def patternsOf (a : Arguments) : Exec (Option (List Text × List Text)) := do
  let mut found : List Text := []
  let mut isGiven := false
  for (letter, value) in a.options do
    if letter = 'e' then
      found := found ++ value.splitOn ('\n' : CodePoint)
      isGiven := true
    else if letter = 'f' then
      isGiven := true
      match ← contentsOf value with
      | .ok bs => found := found ++ (linesOf (Text.ofBytes bs)).map chomped
      | .error e =>
        complain (value ++ text ": " ++ e.reason)
        return none
  if isGiven then return some (found, a.operands)
  match a.operands with
  | [] =>
    let _ ← searchUsage (← ownName) []
    return none
  | t :: files => return some (t.splitOn ('\n' : CodePoint), files)

/-- The number that digits among the options make. -/
def contextDigits (a : Arguments) : Option Nat :=
  let digits := (a.options.map (·.1)).filter CodePoint.isAsciiDigit
  if digits.isEmpty then none else some (digits.foldl (fun n c => 10 * n + (c.val - 0x30)) 0)

/-- A file that is searched is the output, too. -/
def isAlsoOutput (file : Text) : Exec Bool := do
  let addressAt (descriptor : Nat) : Exec (Option Address) := do
    match ← Exec.channel? descriptor with
    | some (_, .file address _ _ _ _) => return some address
    | _ => return none
  let goal ← addressAt 1
  let source ← if file = text "-" then addressAt 0 else do
    match ← Exec.resolve file with
    | .ok (.taken address .file) => pure (some address)
    | _ => pure none
  return goal.isSome && goal = source

/-- Searches files. -/
def grep (standard : PatternForm) (isDeep : Bool) : Utility := fun words => do
  match searchTable.read words with
  | .error e => searchUsage (← ownName) e
  | .ok a =>
    for (letter, value) in a.options do
      if (text "ABC").contains letter && (count? value).isNone then
        complain (value ++ text ": invalid context length argument")
        return 2
      if letter = 'm' && (Arithmetic.integer? true true value).isNone then
        complain (text "invalid max count")
        return 2
    match ← patternsOf a with
    | none => return 2
    | some (patterns, files) =>
      let form := match a.last? "EFGP" with
        | some c => if c = 'F' then PatternForm.words else if c = 'G' then .basic else .extended
        | none => standard
      let ignoresCase : Bool := match a.last? "iyk" with
        | some c => c ≠ 'k'
        | none => false
      match queryOf form (a.has 'x') (a.has 'w') ignoresCase (a.has 'v') patterns with
      | .error e => complain e; return 2
      | .ok (q, warnings) =>
        warnings.forM fun t => complain (text "warning: " ++ t)
        let isDeep := isDeep || a.has 'r' || a.has 'R'
        let m ← get
        let passes (file : Text) : Bool :=
          let name := lastName file
          let fits (letter : CodePoint) : Bool := a.options.any fun o =>
            o.1 = letter && (Marked.ofText o.2).pattern.accepts name
          (!a.has 'Y' || fits 'Y') && !fits 'N'
        let operands := if files.isEmpty then [if isDeep then [] else text "-"] else files
        let all := operands.flatMap fun file =>
          match m.resolveFrom m.process.directory true (if file.isEmpty then text "." else file) with
          | .ok (.taken address .directory) =>
            if isDeep then
              (filesBelow m 1000 (if file.isEmpty then [] else file) address).filter passes
            else [file]
          | _ => [file]
        let number (letter : Char) : Option Nat := (a.value? letter).bind count?
        let both := number 'C' <|> contextDigits a
        let before := (number 'B' <|> both).getD 0
        let after := (number 'A' <|> both).getD 0
        let style : SearchStyle := {
          counts := a.has 'c', names := a.last? "lL" = some ('l' : CodePoint)
          namesOthers := a.last? "lL" = some ('L' : CodePoint)
          isQuiet := a.has 'q', onlyParts := a.has 'o', numbers := a.has 'n', offsets := a.has 'b'
          labels := match a.last? "hH" with
            | some c => c = 'H'
            | none => decide (1 < files.length) || isDeep
          before, after
          hasContext := decide (0 < before) || decide (0 < after)
          most := ((a.value? 'm').bind (Arithmetic.integer? true true)).bind fun n =>
            if n < 0 then none else some n.toNat
          stop := if a.has 'z' then 0 else '\n' }
        let mut isFound := false
        let mut isFailed := false
        let mut isLater := false
        let shows : Bool := !style.isQuiet && !style.names && !style.namesOthers &&
          !style.counts && style.most.all fun n => decide (1 < n)
        for file in all do
          let shownFile := if file = text "-" then
              (a.value? 'J').getD (text "(standard input)") else file
          if shows && (← isAlsoOutput file) then
            if !a.has 's' then complain (shownFile ++ text ": input file is also the output")
            isFailed := true
            continue
          match ← contentsOf file with
          | .error e =>
            if !a.has 's' then complain (file ++ text ": " ++ e.reason)
            isFailed := true
            if e = .isDirectory && style.namesOthers && !style.isQuiet then
              Exec.print (shownFile ++ text "\n")
          | .ok bs =>
            let t := Text.ofBytes bs
            let lines := withOffsets 0 (piecesOf style.stop t)
            let plain (l : Text) : Text := if l.getLast? = some style.stop then l.dropLast else l
            let all := (lines.zipIdx.filter fun ((_, l), _) => q.selects (plain l)).map (·.2)
            let selected := (style.most.map all.take).getD all
            if !selected.isEmpty then isFound := true
            let isBinary := t.contains (0 : CodePoint) && !a.has 'a' && !a.has 'z'
            let ending : Text := if a.has 'Z' then [0] else text "\n"
            if style.isQuiet then pure ()
            else if style.names then
              if !selected.isEmpty then Exec.print (shownFile ++ ending)
            else if style.namesOthers then
              if selected.isEmpty then Exec.print (shownFile ++ ending)
            else if style.counts then
              Exec.print ((if style.labels then shownFile ++ text ":" else []) ++
                Text.ofNat selected.length ++ text "\n")
            else if isBinary && !selected.isEmpty then
              complain (shownFile ++ text ": binary file matches")
            else
              let shown := style.render q shownFile isLater lines selected
              if !shown.isEmpty then isLater := true
              Exec.print shown
        return if style.isQuiet && isFound then 0 else if isFailed then 2 else if isFound then 0 else 1

/-- Searches files for a command of another name, which starts the search proper. -/
def grepFor (standard : PatternForm) (isDeep : Bool) : Utility := fun words => do
  Exec.update fun p => { p with command := some (text "grep") }
  grep standard isDeep words

end Utility

end Shell

end AgentWorkshop
