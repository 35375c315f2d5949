import AgentWorkshop.Shell.Program
import AgentWorkshop.Shell.Redirect

/-!
# Built-in commands

The commands that the shell carries out itself, since they change or ask about
its own state. Those that run other commands are left to the interpreter.
-/

namespace AgentWorkshop

namespace Shell

/-- A built-in command, given its arguments. -/
abbrev BuiltIn := List Text → Exec Nat

namespace BuiltIn

/-! ## Arguments -/

/-- The options of a built-in command, each with its value, and the other words.
A letter before a colon takes a value. -/
def options (letters : String) : (fuel : Nat) → List Text →
    Exec (List (CodePoint × Text) × List Text)
  | 0, words => return ([], words)
  | _, [] => return ([], [])
  | fuel + 1, word :: rest =>
    if word = text "--" then return ([], rest)
    else
      match word with
      | sign :: c :: more =>
        if sign ≠ '-' then return ([], word :: rest)
        else do
          let (found, left) ← letters' (c :: more) rest
          let (others, words) ← options letters fuel left
          return (found ++ others, words)
      | _ => return ([], word :: rest)
where
  /-- The options of one word, and the words that are left after it. -/
  letters' : Text → List Text → Exec (List (CodePoint × Text) × List Text)
    | [], rest => return ([], rest)
    | c :: more, rest => do
      match Utility.OptionTable.arityOf? c (text letters) with
      | none => Exec.fail (text "Illegal option -" ++ [c])
      | some .flag =>
        let (found, left) ← letters' more rest
        return ((c, []) :: found, left)
      | some _ =>
        match more, rest with
        | _ :: _, _ => return ([(c, more)], rest)
        | [], value :: left => return ([(c, value)], left)
        | [], [] => Exec.fail (text "No arg for -" ++ [c] ++ text " option")

/-- The options of a built-in command, and the other words. -/
def read (letters : String) (words : List Text) : Exec (List (CodePoint × Text) × List Text) :=
  options letters (words.length + 1) words

/-- The greatest number that an argument may be. -/
def greatestNumber : Nat := 0x7FFFFFFF

/-- The number in an argument, which has only digits. -/
def number (t : Text) : Exec Nat := do
  let n := t.foldl (fun n c => 10 * n + (c.val - 0x30)) 0
  if t.isEmpty || !t.all CodePoint.isAsciiDigit || greatestNumber < n then
    Exec.fail (text "Illegal number: " ++ t)
  return n

/-- The number in the first argument, or another one. -/
def numberOr (n : Nat) : List Text → Exec Nat
  | [] => return n
  | t :: _ => number t

/-! ## Texts -/

/-- A text in quotes; the quotes in it stand in others. -/
def inQuotes : Text → Text
  | t =>
    let apostrophe : CodePoint := 0x27
    let parts := t.splitBy fun a b => (a = apostrophe) = (b = apostrophe)
    let shown (part : Text) : Text :=
      if part.head? = some apostrophe then text "\"" ++ part ++ text "\""
      else apostrophe :: part ++ [apostrophe]
    let start := if t.head?.all fun c => c = apostrophe then [apostrophe, apostrophe] else []
    start ++ parts.flatMap shown

/-- Shows variables in the order of their names. -/
def showVariables (start : Text) (wanted : Variable → Bool) : Exec Unit := do
  let vs := ((← Exec.process).bindings.filter wanted).mergeSort fun v w => v.name.precedes w.name
  vs.forM fun v =>
    Exec.print (start ++ v.name ++
      (match v.value with
        | some value => text "=" ++ inQuotes value
        | none => []) ++ text "\n")

/-- The name and the value that a word sets, if it does. -/
def settingIn (word : Text) : Text × Option Text :=
  match Utility.setting? word with
  | some (name, value) => (name, some value)
  | none => (word, none)

/-- Complains about a name that is none. -/
def requireName (name : Text) : Exec Unit := do
  if !Exec.isVariableName name then Exec.fail (name ++ text ": bad variable name")

/-! ## Directories -/

/-- A path after another one, without dots and doubled slashes. -/
def joinPaths (here path : Text) : Text :=
  let names := Machine.namesOf (if path.head? = some ('/' : CodePoint) then path
    else here ++ text "/" ++ path)
  let kept := names.foldl (fun (kept : List Text) name =>
    if name = text "." then kept else if name = text ".." then kept.drop 1 else name :: kept) []
  text "/" ++ List.intercalate (text "/") kept.reverse

/-- Changes the directory. -/
def changeDirectory : BuiltIn := fun words => do
  let (flags, operands) ← read "LP" words
  let isPhysical : Bool := (flags.getLast?.map (·.1)) = some ('P' : CodePoint)
  let goesBack : Bool := operands.head? = some (text "-")
  let goal ← match operands with
    | [] => Exec.lookup (text "HOME")
    | t :: _ => if goesBack then Exec.lookup (text "OLDPWD") else pure t
  let p ← Exec.process
  let enters (t : Text) : Exec Bool := do
    let path := joinPaths p.path t
    match ← Exec.resolve (if isPhysical then t else path) with
    | .ok (.taken address .directory) =>
      Exec.change (text "OLDPWD") (some p.path) true false
      Exec.enter address (if isPhysical then Utility.pathOf address else path)
      return true
    | _ => return false
  let isFixed : Bool := match goal with
    | c :: rest => c = '/' ||
      (c = '.' && (rest.isEmpty || rest.head? = some ('/' : CodePoint) ||
        (rest.head? = some ('.' : CodePoint) &&
          (rest.tail.isEmpty || rest.tail.head? = some ('/' : CodePoint)))))
    | [] => false
  let named := if goal.isEmpty then text "." else goal
  let elsewhere ← match ← Exec.lookup? (text "CDPATH") with
    | some directories =>
      if isFixed then pure none
      else
        let paths := (directories.splitOn (':' : CodePoint)).map fun d =>
          (if d.isEmpty then named else d ++ text "/" ++ named, !d.isEmpty)
        paths.findM? fun (path, _) => Exec.isDirectory path
    | none => pure none
  let (path, isElsewhere) := elsewhere.getD (named, false)
  if ← enters path then
    if goesBack || isElsewhere then
      Exec.print ((← Exec.process).path ++ text "\n")
    return 0
  else Exec.fail (text "can't cd to " ++ goal)

/-- Prints the directory. -/
def showDirectory : BuiltIn := fun words => do
  let (flags, _) ← read "LP" words
  let p ← Exec.process
  let isPhysical : Bool := (flags.getLast?.map (·.1)) = some ('P' : CodePoint)
  Exec.print ((if isPhysical then Utility.pathOf p.directory else p.path) ++ text "\n")
  return 0

/-! ## Printing -/

/-- Prints its arguments, their escapes read. -/
def echo : BuiltIn := fun arguments => do
  let isShort : Bool := arguments.head? = some (text "-n")
  let words := if isShort then arguments.drop 1 else arguments
  let line := List.intercalate (text " ") words
  let (t, stopped) := Printf.escapes .builtIn true (line.length + 1) line
  Exec.print (if isShort || stopped then t else t ++ text "\n")
  return 0

/-- The words for a doubt about a number. -/
def doubtText : Printf.Doubt → Text
  | .notNumber => text "expected numeric value"
  | .trailing => text "not completely converted"
  | .tooLarge => text "Numerical result out of range"

/-- Prints arguments by a format. -/
def printf : BuiltIn := fun words => do
  match (← read "" words).2 with
  | [] => Exec.fail (text "usage: printf format [arg ...]")
  | form :: rest =>
    let r := Printf.format .builtIn form (rest.length + 1) rest
    r.doubts.forM fun (t, doubt) => Exec.complainHere (t ++ text ": " ++ doubtText doubt)
    Exec.print r.output
    match r.unknown with
    | some [] => Exec.fail (text "missing format character")
    | some directive => Exec.fail (directive ++ text ": invalid directive")
    | none => return if r.doubts.isEmpty then 0 else 1

/-- Tests a condition; `isBracketed` ones end with a bracket. -/
def test (isBracketed : Bool) : BuiltIn := fun arguments => do
  if isBracketed && arguments.getLast? ≠ some (text "]") then
    Exec.fail (text "missing ]")
  let words := if isBracketed then arguments.dropLast else arguments
  match Condition.value (← get) (words.length + 1) words with
  | .ok b => return if b then 0 else 1
  | .error fault => Exec.fail fault.message

/-! ## Variables -/

/-- Marks variables, after setting some of them, or shows those that are marked. -/
def mark (name : String) (exports : Bool) : BuiltIn := fun words => do
  let (flags, operands) ← read "p" words
  if !flags.isEmpty || operands.isEmpty then
    showVariables (text name ++ text " ") fun v => if exports then v.exported else v.isReadOnly
    return 0
  for word in operands do
    match settingIn word with
    | (name, none) =>
      match ← Exec.binding? name with
      | some v =>
        Exec.store { v with
          exported := v.exported || exports, isReadOnly := v.isReadOnly || !exports }
      | none =>
        requireName name
        Exec.change name none exports (!exports)
    | (name, some value) =>
      requireName name
      Exec.change name (some value) exports (!exports)
  return 0

/-- Hides variables until the running function ends. -/
def hide : BuiltIn := fun words => do
  if (← Exec.process).calls = 0 then Exec.fail (text "not in a function")
  for word in words do
    let (name, value) := settingIn word
    if name ≠ text "-" then
      requireName name
      Exec.hide name value false
  return 0

/-- Forgets variables or functions. -/
def unset : BuiltIn := fun words => do
  let (flags, names) ← read "vf" words
  if (flags.getLast?.map (·.1)) = some ('f' : CodePoint) then
    Exec.update fun p => { p with
      functions := p.functions.filter fun f => !names.contains f.1 }
  else
    for name in names do
      requireName name
      Exec.unset name
  return 0

/-- Reads a line of the input. A backslash at its end leads on to the next one,
and one before another sign quotes that. The answer tells, too, whether the line
is whole. -/
def inputLine (isRaw : Bool) : (fuel : Nat) → Exec (List Segment × Bool)
  | 0 => return ([], false)
  | fuel + 1 => do
    match ← Exec.readLine 0 with
    | .error _ => return ([], false)
    | .ok (bs, isWhole) =>
      let t := (Text.ofBytes bs).filter fun c : CodePoint => c ≠ 0
      if isRaw then return ([⟨.atSeparators, Sign.ofText false t⟩], isWhole)
      else
        let (segments, isOpen) := segmentsOf t
        if isOpen && isWhole then
          let (more, isWhole) ← inputLine isRaw fuel
          return (segments ++ more, isWhole)
        else return (segments, isWhole)
where
  /-- The segments of a line, and whether a backslash stands at its end. -/
  segmentsOf : Text → List Segment × Bool
    | [] => ([], false)
    | [c] => if c = '\\' then ([], true) else ([⟨.atSeparators, [.byte c false]⟩], false)
    | c :: d :: rest =>
      if c = '\\' then
        let (more, isOpen) := segmentsOf rest
        (⟨.never, [.byte d true]⟩ :: more, isOpen)
      else
        let (more, isOpen) := segmentsOf (d :: rest)
        match more with
        | ⟨.atSeparators, signs⟩ :: others => (⟨.atSeparators, .byte c false :: signs⟩ :: others, isOpen)
        | more => (⟨.atSeparators, [.byte c false]⟩ :: more, isOpen)

/-- Reads a line of the input into variables. -/
def readVariables : BuiltIn := fun words => do
  let (flags, names) ← read "p:r" words
  if names.isEmpty then Exec.fail (text "arg count")
  let isRaw := flags.any fun f => f.1 = ('r' : CodePoint)
  let (segments, isWhole) ← inputLine isRaw 100000
  let separators := (← Exec.separators?).getD standardSeparators
  let found := Fields.ofSegments separators (some names.length) segments
  for (name, field) in names.zip (found ++ List.replicate names.length []) do
    Exec.assign name (Sign.toText field)
  return if isWhole then 0 else 1

/-- Reads the next option of words, or of the positional parameters. -/
def nextOption : BuiltIn := fun words => do
  match words with
  | letters :: name :: rest =>
    let p ← Exec.process
    let words := if rest.isEmpty then p.parameters else rest
    let (place, sign) := if words.length + 1 < p.optionPlace.1 then (1, 0) else p.optionPlace
    let inWord := if place ≤ 1 then [] else (words.getD (place - 2) []).drop sign
    let isSilent : Bool := letters.head? = some (':' : CodePoint)
    let finish (place sign : Nat) (answer : CodePoint) (status : Nat) : Exec Nat := do
      Exec.assign (text "OPTIND") (Text.ofNat place)
      Exec.assign name [answer]
      Exec.update fun p => { p with optionPlace := (place, sign) }
      return status
    let (place, after) : Nat × Option Text :=
      if sign ≠ 0 && !inWord.isEmpty then (place, some inWord)
      else
        match words[place - 1]? with
        | some (c :: d :: more) =>
          if c ≠ '-' then (place, none)
          else if d = '-' && more.isEmpty then (place + 1, none)
          else (place + 1, some (d :: more))
        | _ => (place, none)
    match after with
    | none => finish place 0 '?' 1
    | some [] => finish place 0 '?' 1
    | some (c :: more) =>
      let width := (words.getD (place - 2) []).length
      let signAfter := if more.isEmpty then width else width - more.length
      let isColon : Bool := c = ':'
      let arity := if isSilent && isColon then
          some (if letters.length ≠ 1 && letters[1]? = some (':' : CodePoint) then .value else .flag)
        else Utility.OptionTable.arityOf? c (if isSilent then letters.drop 1 else letters)
      match arity with
      | none =>
        if isSilent then Exec.assign (text "OPTARG") [c]
        else
          Exec.complain (text "Illegal option -" ++ [c])
          Exec.unset (text "OPTARG")
        finish place signAfter '?' 0
      | some .flag =>
        Exec.assign (text "OPTARG") []
        finish place signAfter c 0
      | some _ =>
        match more, words[place - 1]? with
        | _ :: _, _ =>
          Exec.assign (text "OPTARG") more
          finish place 0 c 0
        | [], some value =>
          Exec.assign (text "OPTARG") value
          finish (place + 1) 0 c 0
        | [], none =>
          if isSilent then
            Exec.assign (text "OPTARG") [c]
            finish place 0 ':' 0
          else
            Exec.complain (text "No arg for -" ++ [c] ++ text " option")
            Exec.unset (text "OPTARG")
            finish place 0 '?' 0
  | _ => Exec.fail (text "Usage: getopts optstring var [arg...]")

/-! ## The shell's own state -/

/-- Sets options and positional parameters, or shows the variables. -/
def set : BuiltIn := fun words => do
  if words.isEmpty then
    showVariables [] fun v => v.value.isSome
    return 0
  let start ← Exec.readOptions false (words.length + 1) words
  if !start.rest.isEmpty || start.isClosed then
    Exec.update fun p => { p with parameters := start.rest, optionPlace := (1, 0) }
  return 0

/-- Drops positional parameters. -/
def shift : BuiltIn := fun words => do
  let n ← numberOr 1 words
  if (← Exec.process).parameters.length < n then Exec.fail (text "can't shift that many")
  Exec.update fun p => { p with parameters := p.parameters.drop n, optionPlace := (1, 0) }
  return 0

/-- The letters of the permissions of a class of users. -/
def permissionLetters (bits : Nat) : Text :=
  (if bits &&& 4 ≠ 0 then text "r" else []) ++ (if bits &&& 2 ≠ 0 then text "w" else []) ++
    if bits &&& 1 ≠ 0 then text "x" else []

/-- Shows or sets the permissions that new files lack. -/
def umask : BuiltIn := fun words => do
  let (flags, operands) ← read "S" words
  let mask := (← Exec.process).mask
  match operands with
  | [] =>
    if flags.isEmpty then
      let digits := (Nat.toDigits 8 mask).map CodePoint.ofChar
      Exec.print (Text.padZeros 4 digits ++ text "\n")
    else
      let mode := 0o777 - (mask &&& 0o777)
      Exec.print (text "u=" ++ permissionLetters (mode / 64) ++ text ",g=" ++
        permissionLetters (mode / 8 % 8) ++ text ",o=" ++ permissionLetters (mode % 8) ++ text "\n")
    return 0
  | t :: _ =>
    if t.head?.any CodePoint.isAsciiDigit then
      if t.all fun c => (Printf.octal? c).isSome then
        let (n, _) := Printf.digitsWithin Printf.octal? 8 0 t.length t
        Exec.update fun p => { p with mask := n &&& 0o777 }
        return 0
      else Exec.fail (text "Illegal number: " ++ t)
    else
      match Utility.changedMode? 0 false (0o777 - (mask &&& 0o777)) t with
      | some mode =>
        Exec.update fun p => { p with mask := 0o777 - (mode &&& 0o777) }
        return 0
      | none => Exec.fail (text "Illegal mode: " ++ t)

/-- Shows or sets what names stand for. -/
def alias_ : BuiltIn := fun words => do
  let shown (a : Text × Text) : Text := a.1 ++ text "=" ++ inQuotes a.2 ++ text "\n"
  if words.isEmpty then
    let sorted := (← Exec.process).aliases.mergeSort fun a b =>
      Exec.tablePlace a.1 ≤ Exec.tablePlace b.1
    sorted.forM fun a => Exec.print (shown a)
    return 0
  Utility.forEach words fun word => do
    let setting : Option (Text × Text) := match word with
      | c :: rest => (Utility.setting? rest).map fun (name, value) => (c :: name, value)
      | [] => none
    match setting with
    | some (name, value) =>
      Exec.update fun p => { p with
        aliases := if p.aliases.any fun a => a.1 = name then
            p.aliases.map fun a => if a.1 = name then (name, value) else a
          else p.aliases ++ [(name, value)] }
      return true
    | none =>
      match (← Exec.process).aliases.lookup word with
      | some value => Exec.print (shown (word, value)); return true
      | none =>
        Exec.complain (text "alias: " ++ word ++ text " not found")
        return false

/-- Forgets what names stand for. -/
def unalias : BuiltIn := fun words => do
  let (flags, names) ← read "a" words
  if !flags.isEmpty then
    Exec.update fun p => { p with aliases := [] }
    return 0
  Utility.forEach names fun name => do
    if ((← Exec.process).aliases.lookup name).isNone then
      Exec.complain (text "unalias: " ++ name ++ text " not found")
      return false
    Exec.update fun p => { p with aliases := p.aliases.filter fun a => a.1 ≠ name }
    return true

/-- Shows what is run on signals, or sets it. -/
def trap : BuiltIn := fun words => do
  let (_, operands) ← read "" words
  match operands with
  | [] =>
    let traps := (← Exec.process).traps.mergeSort fun s t => s.1 ≤ t.1
    traps.forM fun (n, script) =>
      Exec.print (text "trap -- " ++ inQuotes script ++ text " " ++
        (if n = 0 then text "EXIT" else Signal.nameOf n) ++ text "\n")
    return 0
  | first :: rest =>
    let isNumber := !first.isEmpty && first.all CodePoint.isAsciiDigit
    let resets := rest.isEmpty || (isNumber && (Signal.number? 0 first).isSome)
    let conditions := if resets then first :: rest else rest
    let known := conditions.takeWhile fun t => (Signal.number? 0 t).isSome
    for n in known.filterMap (Signal.number? 0) do
      Exec.update fun p =>
        let others := p.traps.filter fun t => t.1 ≠ n
        { p with traps := if resets || first = text "-" then others else (n, first) :: others }
    match conditions.drop known.length with
    | wrong :: _ =>
      Exec.complain (text "trap: " ++ wrong ++ text ": bad trap")
      return 1
    | [] => return 0

/-- Shows how much time was used. -/
def times : BuiltIn := fun _ => do
  Exec.print (text "0m0.000000s 0m0.000000s\n0m0.000000s 0m0.000000s\n")
  return 0

/-- Shows a limit; there are none. -/
def ulimit : BuiltIn := fun words => do
  let _ ← read "HSatfdsmcnpvwlr" words
  Exec.print (text "unlimited\n")
  return 0

/-! ## Leaving -/

/-- Ends the shell. -/
def exit : BuiltIn := fun words => do
  let p ← Exec.process
  let n ← numberOr (p.trapStatus.getD p.status) words
  Exec.setStatus (n % 256)
  throw .exit

/-- Leaves a function. -/
def return_ : BuiltIn := fun words => do
  Exec.setStatus (← numberOr (← Exec.process).status words)
  throw .leaveFunction

/-- Leaves loops, by a stop that has their number. -/
def leave (stop : Nat → Stop) : BuiltIn := fun words => do
  let n ← numberOr 1 words
  if n = 0 then Exec.fail (text "Illegal number: " ++ words.headD [])
  let loops := (← Exec.process).loops
  if loops = 0 then return 0
  Exec.setStatus 0
  throw (stop (min n loops))

/-- The job that a word names. -/
def jobNamed (t : Text) : Exec Job := do
  let listed ← listedJobs
  let isNumber : Bool := 1 < t.length && (t.drop 1).all CodePoint.isAsciiDigit
  let number := (t.drop 1).foldl (fun n c => 10 * n + (c.val - 0x30)) 0
  let found : Option Job :=
    if t.head? ≠ some ('%' : CodePoint) then none
    else if ["%", "%%", "%+"].any fun name => text name = t then listed.head?
    else if t = text "%-" then listed[1]?
    else if isNumber then listed.find? fun j => j.slot = number
    else none
  match found with
  | some job => return job
  | none =>
    if ["%", "%%", "%+"].any fun name => text name = t then Exec.fail (text "No current job")
    else if t = text "%-" then Exec.fail (text "No previous job")
    else Exec.fail (text "No such job: " ++ t)

/-- What became of a job by now. -/
def stateOf (clock : Nat) (job : Job) : Text × Bool :=
  let running := (text "Running", false)
  match job.state with
  | .waiting => running
  | .ended n signal time =>
    if clock < time then running
    else
      (match signal with
        | some n => Signal.wordsOf n
        | none => if n = 0 then text "Done" else text "Done(" ++ Text.ofNat n ++ text ")", true)

/-- The column at which the commands of jobs are shown. -/
def jobColumn : Nat := 33

/-- Lists jobs. One that has ended is forgotten then. -/
def jobs : BuiltIn := fun words => do
  let (flags, operands) ← BuiltIn.read "lp" words
  let style : CodePoint := (flags.getLast?.map fun f : CodePoint × Text => f.1).getD 0
  reap
  let chosen ← if operands.isEmpty then listedJobs else operands.mapM jobNamed
  for job in chosen do
    if style = 'p' then Exec.print (Text.ofNat job.number ++ text "\n")
    else
      let listed ← listedJobs
      let isAt (i : Nat) : Bool := (listed[i]?.map (·.number)) = some job.number
      let (state, isOver) := stateOf (← Exec.process).clock job
      let shown := text "[" ++ Text.ofNat job.slot ++ text "] " ++
        (if isAt 0 then text "+ " else if isAt 1 then text "- " else text "  ") ++
        (if style = 'l' then Text.ofNat job.number ++ text " " else []) ++ state
      Exec.print (shown ++ List.replicate (jobColumn - shown.length) (' ' : CodePoint) ++
        (List.replicate (job.parts - 1) (text " | ")).flatten ++ text "\n")
      if isOver then changeJob job.number fun j => { j with isListed := false }
  return 0

/-- Brings a job to the foreground or lets it go on, which takes a terminal. -/
def resume : BuiltIn := fun words => do
  let (_, operands) ← BuiltIn.read "" words
  let (name, shown) := match operands with
    | [] => (text "%+", text "(null)")
    | t :: _ => (t, t)
  let _ ← jobNamed name
  Exec.fail (text "job " ++ shown ++ text " not created under job control")

/-- The built-in commands that run no others. -/
def all : List (Text × BuiltIn) :=
  [(":", fun _ => pure 0), ("true", fun _ => pure 0), ("false", fun _ => pure 1),
    ("cd", changeDirectory), ("chdir", changeDirectory), ("pwd", showDirectory), ("echo", echo),
    ("printf", printf), ("test", test false), ("[", test true), ("export", mark "export" true),
    ("readonly", mark "readonly" false), ("local", hide), ("unset", unset), ("read", readVariables),
    ("getopts", nextOption), ("set", set), ("shift", shift), ("umask", umask), ("alias", alias_),
    ("unalias", unalias), ("trap", trap), ("times", times), ("ulimit", ulimit), ("exit", exit),
    ("return", return_), ("break", leave .leaveLoop), ("continue", leave .nextRound),
    ("fg", resume), ("bg", resume), ("jobs", jobs)].map fun (name, b) => (text name, b)

/-- The built-in commands that run others or look for them. -/
def launching : List Text :=
  [".", "command", "eval", "exec", "hash", "kill", "type", "wait"].map text

/-- The built-in commands whose failures end the shell and whose assignments last. -/
def special : List Text :=
  [":", ".", "break", "continue", "eval", "exec", "exit", "export", "local", "readonly", "return",
    "set", "shift", "times", "trap", "unset"].map text

/-- The built-in commands whose arguments may be settings. -/
def setting : List Text :=
  ["alias", "export", "local", "readonly"].map text

/-- A name is that of a built-in command. -/
def isName (name : Text) : Bool :=
  (all.lookup name).isSome || launching.contains name

end BuiltIn

end Shell

end AgentWorkshop
