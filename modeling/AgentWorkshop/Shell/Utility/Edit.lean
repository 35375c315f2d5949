import AgentWorkshop.Shell.Edit.Reader
import AgentWorkshop.Shell.Utility.Part

/-!
# Editing

`sed` runs an editing script on each line of its input.
-/

namespace AgentWorkshop

namespace Shell

namespace Edit

/-! ## States -/

/-- How a script is run. -/
structure Style where
  script : List Command
  isQuiet : Bool
  /-- Each file has lines of its own. -/
  isSeparate : Bool
  /-- Files are changed; what they were is kept under a name with a suffix. -/
  inPlace : Option Text
  stop : CodePoint
  width : Nat
  /-- The descriptors of the files that the script writes. -/
  targets : List (Text × Nat)
  /-- The place that a late complaint names. -/
  place : Text

/-- What is written after a line. -/
inductive Addition where
  | given (t : Text)
  | file (path : Text)

/-- Where the reading and the writing stand. -/
structure State where
  /-- The line at work. -/
  space : Text := []
  /-- The line at work had its end. -/
  isWhole : Bool := true
  held : Text := []
  isHeldWhole : Bool := true
  number : Nat := 0
  /-- The file that is being read. -/
  file : Option Text := none
  files : List Text
  /-- What was read of the file and is still to be used. -/
  buffer : Text := []
  /-- Nothing more is to be read of the file. -/
  isDrained : Bool := true
  queue : List Addition := []
  /-- The ranges that are open, by the number of commands after theirs, and the
  lines at which they end. -/
  ranges : List (Nat × Option Nat)
  hasReplaced : Bool := false
  latest : Option Pattern := none
  /-- The outputs whose last line lacks its end. -/
  unended : List Nat := []
  /-- The new contents of a file that is changed. -/
  output : Text := []
  /-- What is left of files that are read by lines. -/
  sources : List (Text × List Text) := []
  status : Nat := 0

/-- A step of an edit, which may end it with a status. -/
abbrev Editing := StateT State (ExceptT Nat Exec)

/-- A step of the process. -/
def act {α : Type} (e : Exec α) : Editing α := StateT.lift (ExceptT.lift e)

/-- The edit is over. -/
def finishWith {α : Type} (status : Nat) : Editing α := throwThe Nat status

/-! ## Output -/

/-- Writes to an output as it is. -/
def put (style : Style) (descriptor : Nat) (t : Text) : Editing Unit := do
  let s ← get
  let t := if s.unended.contains descriptor then style.stop :: t else t
  set { s with unended := s.unended.filter (· ≠ descriptor) }
  if descriptor = 1 && style.inPlace.isSome then modify fun s => { s with output := s.output ++ t }
  else if descriptor = 1 then act (Exec.print t)
  else
    let _ ← act (Exec.write? descriptor (Text.toBytes t))

/-- Writes a line. -/
def putLine (style : Style) (descriptor : Nat) (t : Text) (isWhole : Bool) : Editing Unit := do
  put style descriptor (if isWhole then t ++ [style.stop] else t)
  if !isWhole then modify fun s => { s with unended := descriptor :: s.unended }

/-- Writes the line at work, or its first part. -/
def putSpace (style : Style) (descriptor : Nat) (onlyFirst : Bool) : Editing Unit := do
  let s ← get
  let isInLine (c : CodePoint) : Bool := c ≠ style.stop
  if onlyFirst && s.space.contains style.stop then
    putLine style descriptor (s.space.takeWhile isInLine) true
  else putLine style descriptor s.space s.isWhole

/-- The descriptor of a file. -/
def descriptorOf (style : Style) (file : Text) : Nat :=
  (style.targets.lookup file).getD 1

/-- Writes what comes after the line. -/
def putQueue (style : Style) : Editing Unit := do
  let queue := (← get).queue
  modify fun s => { s with queue := [] }
  queue.forM fun a => match a with
    | .given t => put style 1 t
    | .file path => do
      match ← act (Utility.contentsOf (if path = text "-" then text "./-" else path)) with
      | .ok bs => put style 1 (Text.ofBytes bs)
      | .error _ => put style 1 []

/-! ## Input -/

/-- The name of the file that keeps what was in one. -/
def backupName (suffix path : Text) : Text :=
  let isStar (c : CodePoint) : Bool := c ≠ '*'
  if suffix.contains ('*' : CodePoint) then
    let name := Utility.lastName path
    path.take (path.length - name.length) ++ suffix.flatMap fun c =>
      if isStar c then [c] else name
  else path ++ suffix

/-- Ends the work on a file. -/
def closeFile (style : Style) : Editing Unit := do
  let s ← get
  match s.file, style.inPlace with
  | some path, some suffix =>
    if !suffix.isEmpty then
      match ← act (Utility.contentsOf path) with
      | .ok bs =>
        let _ ← act (Utility.writeFile (backupName suffix path) bs)
      | .error _ => pure ()
    let _ ← act (Utility.writeFile path (← get).output.toBytes)
  | _, _ => pure ()
  modify fun s => { s with file := none, buffer := [], isDrained := true, output := [] }
  if style.inPlace.isSome then modify fun s => { s with unended := s.unended.filter (· ≠ 1) }

/-- The ranges that are open at the beginning. -/
def openRanges : List Command → List (Nat × Option Nat)
  | [] => []
  | c :: rest =>
    match c.lines.first with
    | some (.line 0) => (rest.length, none) :: openRanges rest
    | _ => openRanges rest

/-- Begins with the next file that can be read. -/
def openFile (style : Style) : (fuel : Nat) → Editing Bool
  | 0 => return false
  | fuel + 1 => do
    let s ← get
    match s.files with
    | [] => return false
    | path :: files =>
      set { s with files }
      let begin (buffer : Text) (isDrained : Bool) : Editing Bool := do
        modify fun s => { s with file := some path, buffer, isDrained }
        if style.isSeparate then
          modify fun s => { s with number := 0, ranges := openRanges style.script }
        return true
      if path = text "-" && style.inPlace.isNone then begin [] false
      else
        match ← act (Utility.contentsOf path) with
        | .ok bs => begin (Text.ofBytes bs) true
        | .error e =>
          if e = .isDirectory && style.inPlace.isNone then
            act (Utility.complain (text "read error on " ++ path ++ text ": " ++ e.reason))
            finishWith 4
          if e = .isDirectory then
            act (Utility.complain (text "couldn't edit " ++ path ++ text ": not a regular file"))
            modify fun s => { s with status := 4 }
          else
            act (Utility.complain (text "can't read " ++ path ++ text ": " ++ e.reason))
            modify fun s => { s with status := 2 }
          openFile style fuel

/-- Reads more of the input, if the file is the input. -/
def fill : Editing Unit := do
  let s ← get
  if !s.isDrained then
    match ← act (Exec.read 0 4096) with
    | .ok [] => modify fun s => { s with isDrained := true }
    | .ok bs => modify fun s => { s with buffer := s.buffer ++ Text.ofBytes bs }
    | .error e =>
      act (Utility.complain (text "read error on stdin: " ++ e.reason))
      finishWith 4

/-- Reads until a line is there. -/
def fillLine (style : Style) : (fuel : Nat) → Editing Unit
  | 0 => act (throw .endless)
  | fuel + 1 => do
    let s ← get
    if s.isDrained || s.buffer.contains style.stop then return
    fill
    fillLine style fuel

/-- How often the input is read for a line. -/
def fillLimit : Nat := 100000

/-- The next line and whether it has its end. -/
def nextLine? (style : Style) : (fuel : Nat) → Editing (Option (Text × Bool))
  | 0 => return none
  | fuel + 1 => do
    if (← get).file.isNone then
      if !(← openFile style ((← get).files.length + 1)) then return none
    fillLine style fillLimit
    let s ← get
    if s.buffer.isEmpty then
      closeFile style
      nextLine? style fuel
    else
      let isInLine (c : CodePoint) : Bool := c ≠ style.stop
      let line := s.buffer.takeWhile isInLine
      let rest := s.buffer.drop line.length
      set { s with buffer := rest.drop 1 }
      return some (line, !rest.isEmpty)

/-- A file has something in it. -/
def hasContents (path : Text) : Editing Bool := do
  if path = text "-" then return true
  match ← act (Utility.contentsOf path) with
  | .ok bs => return !bs.isEmpty
  | .error _ => return false

/-- There are more lines. -/
def hasMore (style : Style) : Editing Bool := do
  if (← get).buffer.isEmpty then fill
  let s ← get
  if !s.buffer.isEmpty then return true
  else if style.isSeparate then return false
  else s.files.anyM hasContents

/-- Takes the next line to work on, behind what is there or in its place. -/
def readOn (style : Style) (appends : Bool) : Editing Bool := do
  match ← nextLine? style ((← get).files.length + 2) with
  | none => return false
  | some (line, isWhole) =>
    modify fun s => { s with
      space := if appends then s.space ++ style.stop :: line else line
      isWhole, number := s.number + 1, hasReplaced := false }
    return true

/-! ## Selecting lines -/

/-- The pattern to look for. -/
def patternOr (style : Style) (p : Option Pattern) : Editing Pattern := do
  match p <|> (← get).latest with
  | some p =>
    modify fun s => { s with latest := some p }
    return p
  | none =>
    act (Utility.complain (style.place ++ text ": no previous regular expression"))
    finishWith 1

/-- The line at work is one of those that are meant. -/
def isMarked (style : Style) (m : Mark) : Editing Bool := do
  let s ← get
  match m with
  | .line n => return s.number = n
  | .step first every => return first ≤ s.number && (s.number - first) % every = 0
  | .last => return !(← hasMore style)
  | .found p =>
    let p ← patternOr style p
    return (p.regex.find? p.ignoresCase s.space).isSome

/-- A range ends at a line, or is over if there is none to come. -/
def setRange (place : Nat) (finish : Option (Option Nat)) : Editing Unit :=
  modify fun s =>
    let others := s.ranges.filter fun r => r.1 ≠ place
    { s with ranges := match finish with
        | some finish => (place, finish) :: others
        | none => others }

/-- The line at work is in the range that a command is for. -/
def isInRange (style : Style) (ls : Lines) (place : Nat) : Editing Bool := do
  let number := (← get).number
  match ls.first, ls.limit with
  | none, _ => return true
  | some m, none => isMarked style m
  | some m, some limit =>
    match (← get).ranges.lookup place with
    | some (some finish) =>
      if finish ≤ number then setRange place none
      return number ≤ finish
    | some none =>
      match limit with
      | .mark m => if ← isMarked style m then setRange place none
      | _ => setRange place none
      return true
    | none =>
      if !(← isMarked style m) then return false
      let until_ (finish : Nat) : Editing Unit :=
        if number < finish then setRange place (some (some finish)) else pure ()
      match limit with
      | .mark (.line n) => until_ n
      | .mark _ => setRange place (some none)
      | .more n => until_ (number + n)
      | .multiple n => if n = 0 then pure () else until_ ((number / n + 1) * n)
      return true

/-! ## Commands -/

/-- The sign as `l` shows it. -/
def listed (c : CodePoint) : Text :=
  if c = '\\' then text "\\\\"
  else if Utility.isShown c then [c] else Utility.escapeOf c

/-- Lines of listed signs, at most so wide. -/
def listedLines (width : Nat) : (column : Nat) → List Text → Text
  | _, [] => text "$\n"
  | column, t :: rest =>
    if width ≠ 0 && width - 1 < column + t.length then
      text "\\\n" ++ t ++ listedLines width t.length rest
    else t ++ listedLines width (column + t.length) rest

/-- How the work on a line ends. -/
inductive Outcome where
  | done
  /-- The line is not printed. -/
  | dropped
  /-- What is left of the line is worked on once more. -/
  | again
  | quit (prints : Bool) (status : Nat)

/-- Does a command that neither jumps nor ends the work on the line. -/
def perform (style : Style) (a : Action) : Editing Unit := do
  let s ← get
  match a with
  | .append t => modify fun s => { s with queue := s.queue ++ [.given t] }
  | .readFile file => modify fun s => { s with queue := s.queue ++ [.file file] }
  | .readLine file =>
    let lines ← match s.sources.lookup file with
      | some lines => pure lines
      | none => do
        match ← act (Utility.contentsOf file) with
        | .ok bs => pure (Utility.piecesOf style.stop (Text.ofBytes bs))
        | .error _ => pure []
    modify fun s => { s with
      sources := (file, lines.drop 1) :: s.sources.filter fun p => p.1 ≠ file
      queue := s.queue ++ (lines.take 1).map .given }
  | .insert t => put style 1 t
  | .showFile => put style 1 (s.file.getD (text "-") ++ text "\n")
  | .number => put style 1 (Text.ofNat s.number ++ text "\n")
  | .hold appends => set { s with
      held := if appends then s.held ++ style.stop :: s.space else s.space
      isHeldWhole := s.isWhole }
  | .recall appends => set { s with
      space := if appends then s.space ++ style.stop :: s.held else s.held
      isWhole := s.isHeldWhole }
  | .exchange => set { s with
      space := s.held, isWhole := s.isHeldWhole, held := s.space, isHeldWhole := s.isWhole }
  | .list width =>
    put style 1 (listedLines (width.getD style.width) 0 (s.space.map listed))
  | .print onlyFirst => putSpace style 1 onlyFirst
  | .write onlyFirst file => putSpace style (descriptorOf style file) onlyFirst
  | .clear => set { s with space := [] }
  | .exchangeSigns pairs => set { s with space := s.space.map fun c => (pairs.lookup c).getD c }
  | .substitute r =>
    let p ← patternOr style r.pattern
    let (t, isDone) := replace p r s.space
    if isDone then
      modify fun s => { s with space := t, hasReplaced := true }
      if r.prints then putSpace style 1 false
      match r.file with
      | some file => putSpace style (descriptorOf style file) false
      | none => pure ()
  | _ => pure ()

/-- Works on a line by commands. -/
def run (style : Style) : (fuel : Nat) → List Command → Editing Outcome
  | 0, _ => act (throw .endless)
  | _, [] => return .done
  | fuel + 1, c :: rest => do
    let isChosen := (← isInRange style c.lines rest.length) != c.lines.isInverse
    if !isChosen then
      match c.action with
      | .enter => run style fuel (afterBlock 0 rest)
      | _ => run style fuel rest
    else
      match c.action with
      | .jump j name =>
        let isTaken := match j, (← get).hasReplaced with
          | .always, _ => true
          | .replaced, b => b
          | .notReplaced, b => !b
        match j with
        | .always => pure ()
        | _ => modify fun s => { s with hasReplaced := false }
        if !isTaken then run style fuel rest
        else if name.isEmpty then return .done
        else run style fuel (afterLabel name style.script)
      | .change t =>
        if ((← get).ranges.lookup rest.length).isNone then put style 1 t
        return .dropped
      | .delete => return .dropped
      | .deleteFirst =>
        let s ← get
        let isInLine (c : CodePoint) : Bool := c ≠ style.stop
        match s.space.dropWhile isInLine with
        | [] => return .dropped
        | _ :: left =>
          set { s with space := left }
          return .again
      | .next appends =>
        if !(← hasMore style) then return .done
        if !appends && !style.isQuiet then putSpace style 1 false
        putQueue style
        if ← readOn style appends then run style fuel rest else return .done
      | .quit prints status => return .quit prints status
      | a =>
        perform style a
        run style fuel rest

/-- How many commands are done for a line. -/
def stepLimit : Nat := 1000000

/-- Works on all lines. -/
def runAll (style : Style) : (fuel : Nat) → (isAgain : Bool) → Editing Nat
  | 0, _ => act (throw .endless)
  | fuel + 1, isAgain => do
    let isThere ← if isAgain then pure true else readOn style false
    if !isThere then
      closeFile style
      return (← get).status
    let finish : Editing Unit := do
      if !style.isQuiet then putSpace style 1 false
      putQueue style
    match ← run style stepLimit style.script with
    | .done => finish; runAll style fuel false
    | .dropped => putQueue style; runAll style fuel false
    | .again => putQueue style; runAll style fuel true
    | .quit prints status =>
      if prints then finish
      let s ← get
      if s.file = some (text "-") then act (Exec.unread 0 s.buffer.length)
      closeFile style
      return if status = 0 then s.status else status

/-- How many lines are worked on. -/
def lineLimit : Nat := 10000000

end Edit

namespace Utility

/-- Opens the files that a script writes. -/
def openTargets : (next : Nat) → List Text → Exec (Except Text (List (Text × Nat)))
  | _, [] => return .ok []
  | next, file :: rest => do
    if file = text "/dev/stdout" || file = text "/dev/stderr" then
      let d := if file = text "/dev/stdout" then 1 else 2
      return (← openTargets next rest).map fun more => (file, d) :: more
    else
      match ← Exec.openFile .write file with
      | .error e => return .error (text "couldn't open file " ++ file ++ text ": " ++ e.reason)
      | .ok id =>
        Exec.attach next id
        return (← openTargets (next + 1) rest).map fun more => (file, next) :: more

/-- How editing is called. -/
def editUsage (complaint : Text) : Exec Nat := do
  if !complaint.isEmpty then complain complaint
  Exec.complain (text "Usage: " ++ (← ownName) ++
    text " [OPTION]... \x7bscript-only-if-no-other-script\x7d [input-file]...")
  return 1

/-- The options of an edit. -/
def editTable : OptionTable where
  letters := "bnrsuzEe:f:i::l:"
  names := [
    ("quiet", .flag, 'n'), ("silent", .flag, 'n'), ("expression", .value, 'e'),
    ("file", .value, 'f'), ("in-place", .maybe, 'i'), ("line-length", .value, 'l'),
    ("null-data", .flag, 'z'), ("zero-terminated", .flag, 'z'), ("regexp-extended", .flag, 'E'),
    ("separate", .flag, 's'), ("unbuffered", .flag, 'u'), ("posix", .flag, 'p'),
    ("sandbox", .flag, 'S'), ("follow-symlinks", .flag, 'F'), ("binary", .flag, 'b')]

/-- The pieces of a script. -/
def editSources : (number : Nat) → List (CodePoint × Text) →
    Exec (Except Text (List Edit.Source))
  | _, [] => return .ok []
  | number, (letter, value) :: rest => do
    if letter = 'e' then
      return (← editSources (number + 1) rest).map fun more =>
        { origin := .inr number, contents := value } :: more
    else
      match ← contentsOf value with
      | .error e => return .error (text "couldn't open file " ++ value ++ text ": " ++ e.reason)
      | .ok bs =>
        let contents := chomped (Text.ofBytes bs)
        return (← editSources number rest).map fun more =>
          { origin := .inl value, contents } :: more

/-- Edits lines by a script. -/
def sed : Utility := fun words => do
  match editTable.read words with
  | .error e => editUsage e
  | .ok a =>
    let given := a.options.filter fun o => (text "ef").contains o.1
    if given.isEmpty && a.operands.isEmpty then return ← editUsage []
    let (pieces, files) := match given, a.operands with
      | [], script :: files => ([(('e' : CodePoint), script)], files)
      | pieces, files => (pieces, files)
    match ← editSources 1 pieces with
    | .error t => complain t; return 4
    | .ok sources =>
      match Edit.ofSources (a.has 'E' || a.has 'r') sources with
      | .error fault => complain fault.message; return fault.status
      | .ok (script, isQuiet) =>
        match ← openTargets (spareDescriptor + 1)
            (script.filterMap fun c => c.action.target?).eraseDups with
        | .error t => complain t; return 4
        | .ok targets =>
          let inPlace := a.value? 'i'
          let place := match sources.getLast? with
            | some s => s.place 0 (s.contents.count ('\n' : CodePoint) + 1)
            | none => []
          let style : Edit.Style := {
            script, targets, inPlace, place
            isQuiet := isQuiet || a.has 'n'
            isSeparate := a.has 's' || inPlace.isSome
            stop := if a.has 'z' then 0 else '\n'
            width := ((a.value? 'l').bind count?).getD 70 }
          let start : Edit.State := {
            files := orInput files, ranges := Edit.openRanges script }
          match ← ((Edit.runAll style Edit.lineLimit false).run start).run with
          | .ok (status, _) => return status
          | .error status => return status

end Utility

end Shell

end AgentWorkshop
