import AgentWorkshop.Shell.Job
import AgentWorkshop.Shell.Utility.Print

/-!
# Programs that start programs

`env` changes what a program sees, `timeout` how long it may run, `xargs` what
arguments it gets.
-/

namespace AgentWorkshop

namespace Shell

/-- How programs are started by their words. -/
structure Starter where
  /-- The process goes on as another program. -/
  become : List Text → Exec (Except Errno Unit)
  /-- Another process runs a program. -/
  spawn : List Text → Exec (Except Errno Ending)

/-- A program that starts programs. -/
abbrev Launcher := Starter → Utility

namespace Utility

/-- The status after a program could not be started. -/
def startStatus (e : Errno) : Nat :=
  if e = .noEntry then 127 else 126

/-- Goes on as another program, or complains. -/
def becomeOr (starter : Starter) (words : List Text)
    (quotes : Text → Text := inQuotes) : Exec Nat := do
  match ← starter.become words with
  | .ok () => return (← Exec.process).status
  | .error e =>
    complain (quotes (words.headD []) ++ text ": " ++ e.reason)
    return startStatus e

/-! ## Environments -/

/-- A word sets a variable. -/
def setting? (word : Text) : Option (Text × Text) :=
  let isName (c : CodePoint) : Bool := c ≠ '='
  match word.dropWhile isName with
  | _ :: value => some (word.takeWhile isName, value)
  | [] => none

/-- Sets an exported variable, whatever its name is. -/
def setVariable (name value : Text) : Exec Unit :=
  Exec.store { name, value := some value, exported := true, isReadOnly := false }

/-- Splits a text at blanks. -/
def wordsIn (t : Text) : List Text :=
  let isBlank (c : CodePoint) : Bool := c = ' ' || c = '\t'
  (t.splitBy fun a b => isBlank a = isBlank b).filter fun w => !w.any isBlank

/-- Runs a program with other variables, or prints them. -/
def env : Launcher := fun starter words => do
  let table : OptionTable := {
    letters := "iu:0C:S:v", isStrict := true, status := 125, names := [
      ("ignore-environment", .flag, 'i'), ("unset", .value, 'u'), ("null", .flag, '0'),
      ("chdir", .value, 'C'), ("split-string", .value, 'S')] }
  let words := match words with
    | t :: rest => match (text "-S").isPrefixOf? t with
      | some (c :: more) => wordsIn (c :: more) ++ rest
      | _ => words
    | [] => words
  table.run words fun a => do
    let operands := (wordsIn ((a.value? 'S').getD [])) ++ a.operands
    let isBare : Bool := operands.head? = some (text "-")
    let operands := if isBare then operands.drop 1 else operands
    if isBare || a.has 'i' then Exec.update fun p => { p with bindings := [] }
    for (letter, name) in a.options do
      if letter = 'u' then
        if name.isEmpty || name.contains ('=' : CodePoint) then
          complain (text "cannot unset " ++ inQuotes name ++ text ": " ++ Errno.reason .invalid)
          return 125
        Exec.update fun p => { p with bindings := p.bindings.filter fun v => v.name ≠ name }
    let settings := operands.takeWhile fun t => (setting? t).isSome
    for t in settings do
      match setting? t with
      | some (name, value) =>
        setVariable name value
      | none => pure ()
    let stop := if a.has '0' then [(0 : CodePoint)] else text "\n"
    let rest := operands.drop settings.length
    if !rest.isEmpty && a.has '0' then
      return ← misused (text "cannot specify --null (-0) with command") 125
    match a.value? 'C' with
    | some directory =>
      if rest.isEmpty then return ← misused (text "must specify command with --chdir (-C)") 125
      match ← Exec.resolve directory with
      | .ok (.taken address .directory) =>
        Exec.update fun p => { p with directory := address }
      | found =>
        let e := match found with
          | .error e => e
          | .ok (.free _ _) => .noEntry
          | .ok _ => .notDirectory
        complain (text "cannot change directory to " ++ inQuotes directory ++ text ": " ++
          e.reason)
        return 125
    | none => pure ()
    if rest.isEmpty then
      (← Exec.exportedVariables).forM fun (name, value) =>
        Exec.print (name ++ text "=" ++ value ++ stop)
      return 0
    else
      let status ← becomeOr starter rest
      if status = 127 && (rest.headD []).contains (' ' : CodePoint) then
        complain (text "use -[v]S to pass options in shebang lines")
      return status

/-- Runs a program without the hangup signal. -/
def nohup : Launcher := fun starter words => do
  let words := if words.head? = some (text "--") then words.drop 1 else words
  if words.isEmpty then misused (text "missing operand") 125
  else becomeOr starter words

/-- Runs a program with another priority. -/
def nice : Launcher := fun starter words => do
  let table : OptionTable := {
    letters := "n:", isStrict := true, status := 125
    names := [("adjustment", .value, 'n')] }
  table.run words fun a => do
    if a.operands.isEmpty then
      Exec.print (text "0\n")
      return 0
    else becomeOr starter a.operands

/-- Runs a program for a time at most. -/
def timeout : Launcher := fun starter words => do
  let table : OptionTable := {
    letters := "k:s:v", isStrict := true, status := 125, names := [
      ("kill-after", .value, 'k'), ("signal", .value, 's'), ("verbose", .flag, 'v'),
      ("foreground", .flag, 'F'), ("preserve-status", .flag, 'p')] }
  table.run words fun a => do
    let named? (t : Text) : Option Nat :=
      Signal.number? 1 (((text "SIG").isPrefixOf? t).getD t)
    match (a.value? 's').map named?, a.operands with
    | some none, _ => misused (cited ((a.value? 's').getD []) ++ text ": invalid signal") 125
    | _, [] => misused (text "missing operand") 125
    | _, [_] => misused (text "missing operand") 125
    | signal, span :: command =>
      match span? span with
      | none => misused (text "invalid time interval " ++ cited span) 125
      | some length =>
        let number := (signal.bind id).getD 15
        let p ← Exec.process
        let ends := length.bind fun n => if n = 0 then none else some (p.clock + n)
        /- What the process itself is subject to comes first. -/
        let comesFirst : Bool := match p.deadline, ends with
          | some (time, _), some ends => time ≤ ends
          | some _, none => true
          | none, _ => false
        let deadline := if comesFirst then p.deadline else ends.map (·, number)
        Exec.update fun p => { p with deadline }
        let clearing : Exec Unit := Exec.update fun q => { q with deadline := p.deadline }
        let outcome ← try
            let found ← starter.spawn command
            clearing
            pure found
          catch
            | .killed n =>
              clearing
              if comesFirst then throw (.killed n)
              pure (.ok (.signal n))
            | stop => throw stop
        match outcome with
        | .error e =>
          complain (text "failed to run command " ++ inQuotes (command.headD []) ++
            text ": " ++ e.reason)
          return startStatus e
        | .ok ending =>
          let now := (← Exec.process).clock
          let isLate : Bool := match ends, ending with
            | some ends, .signal n => n = number && !comesFirst && ends ≤ now
            | some _, .endless => true
            | _, _ => false
          if isLate then
            match ends with
            | some ends => Exec.waitUntil ends
            | none => pure ()
            if number = 9 then throw (.killed 9)
            return if a.has 'p' then Signal.status number else 124
          else
            match ending with
            | .endless => throw .endless
            | ending => return ending.code

/-! ## Arguments from the input -/

/-- What a text gives to `xargs`: its words, each with whether it is the last one of its line,
and what is wrong with the rest. -/
structure InputWords where
  words : List (Text × Bool)
  fault : Option Text

/-- The words of an input after another one. -/
def InputWords.after (word : Text × Bool) (w : InputWords) : InputWords :=
  { w with words := word :: w.words }

/-- Reads the words of a text; where lines stay whole, blanks end no word. -/
def inputWords (isWhole : Bool) : (quote : Option CodePoint) → (current : Option Text) → Text →
    InputWords
  | none, current, [] => ⟨current.toList.map fun w => (w.reverse, true), none⟩
  | some q, _, [] => ⟨[], some (unmatched q)⟩
  | some q, current, c :: rest =>
    if c = q then inputWords isWhole none (some (current.getD [])) rest
    else if c = '\n' then ⟨[], some (unmatched q)⟩
    else inputWords isWhole (some q) (some (c :: current.getD [])) rest
  | none, none, c :: rest =>
    if Arithmetic.isSpace c then inputWords isWhole none none rest
    else if c = '"' || c.val = 0x27 then inputWords isWhole (some c) (some []) rest
    else if c = '\\' then
      match rest with
      | d :: more => inputWords isWhole none (some [d]) more
      | [] => ⟨[], none⟩
    else inputWords isWhole none (some [c]) rest
  | none, some w, c :: rest =>
    if c = '\n' then (inputWords isWhole none none rest).after (w.reverse, true)
    else if !isWhole && (c = ' ' || c = '\t') then
      (inputWords isWhole none none rest).after (w.reverse, false)
    else if c = '"' || c.val = 0x27 then inputWords isWhole (some c) (some w) rest
    else if c = '\\' then
      match rest with
      | d :: more => inputWords isWhole none (some (d :: w)) more
      | [] => ⟨[(w.reverse, true)], none⟩
    else inputWords isWhole none (some (c :: w)) rest
where
  /-- The complaint about a quotation without an end. -/
  unmatched (q : CodePoint) : Text :=
    text "unmatched " ++ text (if q = '"' then "double" else "single") ++
      text " quote; by default quotes are special to xargs unless you use the -0 option"

/-- Words in groups of a size. -/
def groups (size : Nat) : (fuel : Nat) → List Text → List (List Text)
  | 0, _ => []
  | _, [] => []
  | fuel + 1, ws => ws.take size :: groups size fuel (ws.drop size)

/-- Lines of words: each ends with a word that is the last one of its line. -/
def wordLines : (line : List Text) → List (Text × Bool) → List (List Text)
  | [], [] => []
  | line, [] => [line.reverse]
  | line, (w, true) :: rest => (w :: line).reverse :: wordLines [] rest
  | line, (w, false) :: rest => wordLines (w :: line) rest

/-- Replaces each occurrence of a part. -/
def replaceAll (part whole : Text) : (fuel : Nat) → Text → Text
  | 0, t => t
  | _, [] => []
  | fuel + 1, c :: rest =>
    match part.isPrefixOf? (c :: rest) with
    | some after => whole ++ replaceAll part whole fuel after
    | none => c :: replaceAll part whole fuel rest

/-- Runs a program with arguments from the input. -/
def xargs : Launcher := fun starter words => do
  let table : OptionTable := {
    letters := "0a:d:E:e::I:i::L:l::n:oP:prs:tx", isStrict := true, names := [
      ("null", .flag, '0'), ("arg-file", .value, 'a'), ("delimiter", .value, 'd'),
      ("max-args", .value, 'n'), ("max-lines", .maybe, 'l'), ("no-run-if-empty", .flag, 'r'),
      ("replace", .maybe, 'i'), ("verbose", .flag, 't'), ("max-procs", .value, 'P')] }
  table.run words fun a => do
    let command := if a.operands.isEmpty then [text "echo"] else a.operands
    let input ← match a.value? 'a' with
      | some file => contentsOf file
      | none => Exec.readAll 0
    let t := match input with
      | .ok bs => Text.ofBytes bs
      | .error _ => []
    match a.value? 'a', input with
    | some file, .error e =>
      complain (text "Cannot open input file " ++ inQuotes file ++ text ": " ++ e.reason)
      return 1
    | _, _ => pure ()
    let mark := match a.value? 'I', a.value? 'i' with
      | some m, _ => some m
      | none, some m => some (if m.isEmpty then text "\x7b\x7d" else m)
      | none, none => none
    for (letter, t) in a.options do
      if (text "nLPs").contains letter then
        let isNumber : Bool := match t with
          | c :: rest => (if c = '-' then rest ≠ [] && rest.all CodePoint.isAsciiDigit
              else t.all CodePoint.isAsciiDigit)
          | [] => false
        let about := text " for -" ++ [letter] ++ text " option"
        if !isNumber then
          return ← misused (text "invalid number \"" ++ t ++ text "\"" ++ about)
        let least := if letter = 'P' then 0 else 1
        let isLow : Bool := t.head? = some ('-' : CodePoint) ||
          t.foldl (fun n c => 10 * n + (c.val - 0x30)) 0 < least
        if isLow then
          return ← misused (text "value " ++ t ++ about ++ text " should be >= " ++
            Text.ofNat least)
    let separator : Option CodePoint := if a.has '0' then some 0
      else (a.value? 'd').bind fun d =>
        (Printf.escapes .program false (d.length + 1) d).1.head?
    let split (c : CodePoint) (t : Text) : List Text :=
      let parts := t.splitOn c
      if parts.getLast? = some [] then parts.dropLast else parts
    let found : InputWords := match separator with
      | some c => ⟨(split c t).map (·, true), none⟩
      | none => inputWords mark.isSome none none t
    let final := ((a.value? 'E') <|> (a.value? 'e')).filter fun w => !w.isEmpty && separator.isNone
    let kept := match final with
      | some w => found.words.takeWhile fun (v, _) => v ≠ w
      | none => found.words
    let fault := if kept.length < found.words.length then none else found.fault
    do
      let ws := kept.map (·.1)
      let number (letter : Char) : Option Nat :=
        (a.value? letter).map fun t => (Arithmetic.naturalAt t).1
      let lines := number 'L' <|> (a.value? 'l').map fun t =>
        if t.isEmpty then 1 else (Arithmetic.naturalAt t).1
      let calls : List (List Text) := match mark, lines with
        | some m, _ => ws.map fun w => command.map (replaceAll m w 100000)
        | none, some n =>
          /- Lines that are left over before a fault are not run. -/
          let ls := wordLines [] kept
          let count := if fault.isSome then ls.length / n else (ls.length + n - 1) / n
          (List.range count).map fun i => command ++ ((ls.drop (n * i)).take n).flatten
        | none, none =>
          match number 'n' with
          | some n => (groups n (ws.length + 1) ws).map (command ++ ·)
          | none => [command ++ ws]
      let calls := if ws.isEmpty then
          if mark.isSome || a.has 'r' || fault.isSome then [] else [command]
        else calls
      let mut status := 0
      for call in calls do
        if a.has 't' then Exec.complain (List.intercalate (text " ") (call.map named))
        match ← starter.spawn call with
        | .error e =>
          complain (call.headD [] ++ text ": " ++ e.reason)
          return startStatus e
        | .ok .endless => throw .endless
        | .ok (.signal n) =>
          complain (call.headD [] ++ text ": terminated by signal " ++ Text.ofNat n)
          return 125
        | .ok (.status 255) =>
          complain (call.headD [] ++ text ": exited with status 255; aborting")
          return 124
        | .ok (.status n) => if n ≠ 0 then status := 123
      match fault with
      | some e => complain e; return 1
      | none => return status

end Utility

end Shell

end AgentWorkshop
