import AgentWorkshop.Shell.Edit.Basic

/-!
# Reading editing scripts

A script comes in pieces, from words or from files. A complaint tells the piece
and how many of its signs, or lines, were read.
-/

namespace AgentWorkshop

namespace Shell

namespace Edit

/-- A piece of a script. -/
structure Source where
  /-- The file it is from, or else the number of the word. -/
  origin : Text ⊕ Nat
  contents : Text

/-- What is left to read. -/
structure Reading where
  source : Source
  rest : Text
  /-- How many signs were read of the piece. -/
  count : Nat
  later : List Source
  /-- How many braces are open. -/
  depth : Nat
  isExtended : Bool
  /-- A first line asks for a quiet script. -/
  isQuiet : Bool

/-- Why a script cannot be read, and the status of the program then. -/
structure Fault where
  message : Text
  status : Nat := 1

/-- A step of the reader. -/
abbrev Reader := StateT Reading (Except Fault)

/-- The place that a complaint names. -/
def Source.place (s : Source) (signs lines : Nat) : Text :=
  match s.origin with
  | .inl file => text "file " ++ file ++ text " line " ++ Text.ofNat lines
  | .inr n => text "-e expression #" ++ Text.ofNat n ++ text ", char " ++ Text.ofNat signs

/-- The signs of a piece that were read. -/
def Reading.before (r : Reading) : Text :=
  r.source.contents.take r.count

/-- Complains about the place. -/
def bad {α : Type} (t : Text) : Reader α := do
  let r ← get
  let lines := (r.before.dropLast.filter fun c : CodePoint => c = '\n').length + 1
  throw { message := r.source.place r.count lines ++ text ": " ++ t }

/-- The next sign. -/
def take : Reader (Option CodePoint) := do
  let r ← get
  match r.rest with
  | [] => return none
  | c :: rest =>
    set { r with rest, count := r.count + 1 }
    return some c

/-- Gives back a sign. -/
def untake (c : Option CodePoint) : Reader Unit :=
  match c with
  | some c => modify fun r => { r with rest := c :: r.rest, count := r.count - 1 }
  | none => pure ()

/-- Takes signs as long as they fit. -/
def takeWhile (fits : CodePoint → Bool) : Reader Text := do
  let r ← get
  let t := r.rest.takeWhile fits
  set { r with rest := r.rest.drop t.length, count := r.count + t.length }
  return t

/-- A blank inside of a line. -/
def isBlank (c : CodePoint) : Bool := c = ' ' || c = '\t'

/-- The next sign that is no blank. -/
def takeDark : Reader (Option CodePoint) := do
  let _ ← takeWhile isBlank
  take

/-- The number that digits write. -/
def numberOf (digits : Text) : Nat :=
  digits.foldl (fun n c => 10 * n + (c.val - 0x30)) 0

/-- A number, which is 0 without a digit. -/
def takeNumber : Reader Nat := do
  return numberOf (← takeWhile CodePoint.isAsciiDigit)

/-! ## Escapes -/

/-- The number of at most so many digits in a base, and what is after them. -/
def escapedNumber? (base most : Nat) (t : Text) : Option (Nat × Text) :=
  let value (c : CodePoint) : Nat :=
    if c.isAsciiDigit then c.val - 0x30
    else if c.isAsciiSmall then c.val - 0x61 + 10
    else if c.isAsciiCapital then c.val - 0x41 + 10 else 99
  let digits := (t.take most).takeWhile fun c => value c < base
  if digits.isEmpty then none
  else some (digits.foldl (fun n c => base * n + value c) 0, t.drop digits.length)

/-- The byte that an escape writes, whose signs after the backslash are given. -/
def escape? : Text → Option (CodePoint × Text)
  | [] => none
  | c :: rest =>
    let byte (n : Nat) : CodePoint := CodePoint.ofChar (Char.ofNat (n % 256))
    if c = 'n' then some ('\n', rest)
    else if c = 't' then some ('\t', rest)
    else if c = 'r' then some ('\r', rest)
    else if c = 'a' then some (7, rest)
    else if c = 'f' then some (12, rest)
    else if c = 'v' then some (11, rest)
    else if c = 'x' then (escapedNumber? 16 2 rest).map fun (n, more) => (byte n, more)
    else if c = 'o' then (escapedNumber? 8 3 rest).map fun (n, more) => (byte n, more)
    else if c = 'd' then (escapedNumber? 10 3 rest).map fun (n, more) => (byte n, more)
    else if c = 'c' then
      match rest with
      | d :: more =>
        let upper := Casing.upper.apply d
        some (byte (if upper.val < 0x40 then upper.val + 0x40 else upper.val - 0x40), more)
      | [] => none
    else none

/-- A text whose backslashes are resolved. -/
def resolved : (fuel : Nat) → Text → Text
  | 0, t => t
  | fuel + 1, c :: rest =>
    if c = '\\' then
      match escape? rest, rest with
      | some (d, more), _ => d :: resolved fuel more
      | none, d :: more => d :: resolved fuel more
      | none, [] => []
    else c :: resolved fuel rest
  | _, [] => []

/-- Where a sign stands to the brackets of an expression. -/
inductive Bracket where
  | outside
  /-- A closing bracket here is a member; so is none after a caret. -/
  | opened
  | inside
  /-- In a class, which ends by the sign before a bracket. -/
  | ofClass (stop : CodePoint)

/-- Where the next sign stands. -/
def Bracket.next (c : CodePoint) (rest : Text) : Bracket → Bracket
  | .outside => if c = '[' then .opened else .outside
  | .opened =>
    if c = '^' then .opened
    else if c = '[' && (rest.head?.any fun d => (text ":.=").contains d) then
      .ofClass (rest.headD 0)
    else .inside
  | .inside =>
    if c = ']' then .outside
    else if c = '[' && (rest.head?.any fun d => (text ":.=").contains d) then
      .ofClass (rest.headD 0)
    else .inside
  | .ofClass stop =>
    if c = stop && rest.head? = some (']' : CodePoint) then .opened else .ofClass stop

/-- An expression whose escapes for bytes are resolved. -/
def plainPattern : (fuel : Nat) → Bracket → Text → Text
  | 0, _, t => t
  | _, _, [] => []
  | fuel + 1, b, c :: rest =>
    let escaped := if c = '\\' then escape? rest else none
    match escaped, b, rest with
    | some (d, more), b, _ => d :: plainPattern fuel b more
    | none, .outside, d :: more =>
      if c = '\\' then c :: d :: plainPattern fuel .outside more
      else c :: plainPattern fuel (Bracket.outside.next c rest) rest
    | none, b, _ => c :: plainPattern fuel (b.next c rest) rest

/-! ## Texts between signs -/

/-- The text up to a sign, and what is after it. -/
def upTo (stop : CodePoint) (isPattern : Bool) : (fuel : Nat) → Bracket → Text →
    Option (Text × Text)
  | 0, _, _ => none
  | _, _, [] => none
  | fuel + 1, b, c :: rest =>
    let goOn (t : Text) (b : Bracket) (rest : Text) : Option (Text × Text) :=
      (upTo stop isPattern fuel b rest).map fun (more, after) => (t ++ more, after)
    let isOutside : Bool := match b with
      | .outside => true
      | _ => false
    if c = '\n' then none
    else if c = stop && isOutside then some ([], rest)
    else if c = '\\' && isOutside then
      match rest with
      | [] => none
      | d :: more =>
        if d = '\n' then goOn [d] b more
        else if d = stop then goOn (if !isPattern && d = '&' then [c, d] else [d]) b more
        else if d = 'n' && isPattern then goOn ['\n'] b more
        else goOn [c, d] b more
    else goOn [c] (if isPattern then b.next c rest else .outside) rest

/-- Takes the text up to a sign. -/
def takeUpTo (stop : Option CodePoint) (isPattern : Bool) (complaint : String) : Reader Text := do
  let r ← get
  /- What a text without its end leaves is the rest of the line. -/
  let fail : Reader Text := do
    modify fun r => { r with rest := [], count := r.count + (r.rest.takeWhile fun c : CodePoint =>
      c ≠ '\n').length }
    bad (text complaint)
  match stop with
  | none => fail
  | some stop =>
    if stop = '\n' || stop = '\\' then fail
    else
      match upTo stop isPattern (r.rest.length + 1) .outside r.rest with
      | none => fail
      | some (t, after) =>
        set { r with rest := after, count := r.count + (r.rest.length - after.length) }
        return t

/-- The pattern that a text writes, with its flags; an empty text is none. -/
def patternOf (t : Text) (ignoresCase atLines : Bool) : Reader (Option Pattern) := do
  if t.isEmpty then return none
  let t := plainPattern (t.length + 1) .outside t
  match Regex.ofText { isExtended := (← get).isExtended, isStrict := true } t with
  | .error e =>
    if e = Regex.mistakenClass then throw { message := e }
    bad e
  | .ok (regex, _) =>
    return some { regex := if atLines then regex.atLines else regex, ignoresCase }

/-! ## Addresses -/

/-- The flags after an expression of an address. -/
def patternFlags : (fuel : Nat) → Reader (Bool × Bool)
  | 0 => return (false, false)
  | fuel + 1 => do
    let c ← takeDark
    if c = some ('I' : CodePoint) then
      let (_, atLines) ← patternFlags fuel
      return (true, atLines)
    else if c = some ('M' : CodePoint) then
      let (ignoresCase, _) ← patternFlags fuel
      return (ignoresCase, true)
    else
      untake c
      return (false, false)

/-- Reads an address that begins by a sign. -/
def mark? (c : Option CodePoint) : Reader (Option Mark) := do
  match c with
  | none => return none
  | some c =>
    if c = '/' || c = '\\' then
      let stop ← if c = '\\' then take else pure (some c)
      let t ← takeUpTo stop true "unterminated address regex"
      let (ignoresCase, atLines) ← patternFlags (← get).rest.length
      return some (.found (← patternOf t ignoresCase atLines))
    else if c.isAsciiDigit then
      untake (some c)
      let n ← takeNumber
      let d ← takeDark
      if d = some ('~' : CodePoint) then
        let _ ← takeWhile isBlank
        let every ← takeNumber
        return some (if every = 0 then .line n else .step n every)
      else
        untake d
        return some (.line n)
    else if c = '$' then return some .last
    else return none

/-- Reads the second address. -/
def limit : Reader Limit := do
  let c ← takeDark
  if c = some ('+' : CodePoint) || c = some ('~' : CodePoint) then
    let _ ← takeWhile isBlank
    let n ← takeNumber
    return if c = some ('+' : CodePoint) then .more n else .multiple n
  else
    match ← mark? c with
    | some m => return .mark m
    | none => bad (text "unexpected `,'")

/-- Reads the addresses of a command, and the sign of the command. -/
def lines (c : Option CodePoint) : Reader (Lines × Option CodePoint) := do
  if c = some ('+' : CodePoint) || c = some ('~' : CodePoint) then
    let n ← takeNumber
    if n ≠ 0 then bad (text "invalid usage of +N or ~N as first address")
  let first ← mark? c
  let mut next := c
  let mut last : Option Limit := none
  if first.isSome then
    next ← takeDark
    if next = some (',' : CodePoint) then
      last := some (← limit)
      next ← takeDark
    match first, last with
    | some (.line 0), some (.mark (.found _)) => pure ()
    | some (.line 0), _ => bad (text "invalid usage of line address 0")
    | _, _ => pure ()
  if next = some ('!' : CodePoint) then
    next ← takeDark
    if next = some ('!' : CodePoint) then bad (text "multiple `!'s")
    return ({ first, limit := last, isInverse := true }, next)
  return ({ first, limit := last }, next)

/-! ## Commands -/

/-- Nothing but the end of a command may be next. -/
def finish : Reader Unit := do
  let c ← takeDark
  match c with
  | none => pure ()
  | some d =>
    if d = '\x7d' || d = '#' then untake c
    else if d ≠ '\n' && d ≠ ';' then bad (text "extra characters after command")

/-- The name of a file, up to the end of the line. -/
def fileName : Reader Text := do
  let _ ← takeWhile isBlank
  let isInLine (c : CodePoint) : Bool := c ≠ '\n'
  let name ← takeWhile isInLine
  if name.isEmpty then bad (text "missing filename in r/R/w/W commands")
  let _ ← take
  return name

/-- The name of a label. -/
def labelName : Reader Text := do
  let _ ← takeWhile isBlank
  takeWhile fun c => !(text " \t\n\r;\x7d").contains c

/-- The rest of a text that spans lines, which goes on in the next piece if a
backslash ends this one. -/
def textLines : (fuel : Nat) → Reader Text
  | 0 => return []
  | fuel + 1 => do
    match ← take with
    | none => return text "\n"
    | some c =>
      if c = '\n' then return text "\n"
      else if c = '\\' then
        match ← take with
        | some d => return c :: d :: (← textLines fuel)
        | none =>
          let r ← get
          match r.later with
          | [] => return text "\n"
          | s :: later =>
            set { r with source := s, rest := s.contents, count := 0, later }
            return text "\n" ++ (← textLines fuel)
      else return c :: (← textLines fuel)

/-- The text of a command that writes one. -/
def givenText : Reader Text := do
  let size := (← get).rest.length + ((← get).later.map fun s => s.contents.length + 1).foldl (· + ·) 0
  let c ← takeDark
  let done (t : Text) : Text := resolved (t.length + 1) t
  match c with
  | none => bad (text "expected \\ after `a', `c' or `i'")
  | some d =>
    if d = '\\' then
      let e ← take
      if e.isNone then
        let r ← get
        match r.later with
        | [] => return []
        | s :: later =>
          set { r with source := s, rest := s.contents, count := 0, later }
          return done (← textLines (size + 1))
      else
        if e ≠ some ('\n' : CodePoint) then untake e
        return done (← textLines (size + 1))
    else
      untake c
      return done (← textLines (size + 1))

/-- The parts of a replacement. -/
def partsOf : (fuel : Nat) → Text → List Part
  | 0, _ => []
  | _, [] => []
  | fuel + 1, c :: rest =>
    if c = '&' then .group 0 :: partsOf fuel rest
    else if c = '\\' then
      match rest with
      | [] => [.literal c]
      | d :: more =>
        let after := partsOf fuel more
        if d.isAsciiDigit then .group (d.val - 0x30) :: after
        else if d = 'U' then .casing .upper :: after
        else if d = 'L' then .casing .lower :: after
        else if d = 'E' then .casing .same :: after
        else if d = 'u' then .nextCasing .upper :: after
        else if d = 'l' then .nextCasing .lower :: after
        else
          match escape? rest with
          | some (e, more) => .literal e :: partsOf fuel more
          | none => .literal d :: after
    else .literal c :: partsOf fuel rest

/-- The flags of a replacement. -/
structure Flags where
  isGlobal : Bool := false
  count : Option Nat := none
  prints : Bool := false
  ignoresCase : Bool := false
  atLines : Bool := false
  file : Option Text := none

/-- Reads the flags of a replacement. -/
def flags : (fuel : Nat) → Flags → Reader Flags
  | 0, f => return f
  | fuel + 1, f => do
    let c ← takeDark
    match c with
    | none => return f
    | some d =>
      if d = '\n' || d = ';' then return f
      else if d = '\x7d' || d = '#' then
        untake c
        return f
      else if d = 'g' then
        if f.isGlobal then bad (text "multiple `g' options to `s' command")
        flags fuel { f with isGlobal := true }
      else if d = 'p' then
        if f.prints then bad (text "multiple `p' options to `s' command")
        flags fuel { f with prints := true }
      else if d = 'i' || d = 'I' then flags fuel { f with ignoresCase := true }
      else if d = 'm' || d = 'M' then flags fuel { f with atLines := true }
      else if d = 'w' then return { f with file := some (← fileName) }
      else if d.isAsciiDigit then
        untake c
        let n ← takeNumber
        if f.count.isSome then bad (text "multiple number options to `s' command")
        if n = 0 then bad (text "number option to `s' command may not be zero")
        flags fuel { f with count := some n }
      else bad (text "unknown option to `s'")

/-- Reads a replacement. -/
def substitution : Reader Substitution := do
  let stop ← take
  let t ← takeUpTo stop true "unterminated `s' command"
  let replacement ← takeUpTo stop false "unterminated `s' command"
  let f ← flags ((← get).rest.length + 1) {}
  let pattern ← patternOf t f.ignoresCase f.atLines
  let parts := partsOf (replacement.length + 1) replacement
  let most := parts.foldl (fun n p => match p with
    | .group m => max n m
    | _ => n) 0
  match pattern with
  | some p =>
    if p.regex.groupCount < most then
      bad (text "invalid reference \\" ++ Text.ofNat most ++ text " on `s' command's RHS")
  | none => pure ()
  return { pattern, parts, isGlobal := f.isGlobal, count := f.count.getD 1, prints := f.prints
           file := f.file }

/-- Reads which signs are exchanged. -/
def exchanges : Reader (List (CodePoint × CodePoint)) := do
  let stop ← take
  let before ← takeUpTo stop false "unterminated `y' command"
  let after ← takeUpTo stop false "unterminated `y' command"
  let before := resolved (before.length + 1) before
  let after := resolved (after.length + 1) after
  if before.length ≠ after.length then
    bad (text "strings for `y' command are different lengths")
  finish
  return before.zip after

/-- The number after a command, if there is one. -/
def argument? : Reader (Option Nat) := do
  let digits ← do
    let _ ← takeWhile isBlank
    takeWhile CodePoint.isAsciiDigit
  finish
  return if digits.isEmpty then none else some (numberOf digits)

/-- A command that needs nothing else. -/
def simple? (c : CodePoint) : Option Action :=
  if c = '=' then some .number
  else if c = 'd' then some .delete
  else if c = 'D' then some .deleteFirst
  else if c = 'F' then some .showFile
  else if c = 'h' then some (.hold false)
  else if c = 'H' then some (.hold true)
  else if c = 'g' then some (.recall false)
  else if c = 'G' then some (.recall true)
  else if c = 'x' then some .exchange
  else if c = 'n' then some (.next false)
  else if c = 'N' then some (.next true)
  else if c = 'p' then some (.print false)
  else if c = 'P' then some (.print true)
  else if c = 'z' then some .clear
  else none

/-- Reads a command, given its sign. -/
def action (ls : Lines) (c : CodePoint) : Reader Action := do
  match simple? c with
  | some a => finish; return a
  | none =>
    if c = '\x7b' then
      modify fun r => { r with depth := r.depth + 1 }
      return .enter
    else if c = '\x7d' then
      if (← get).depth = 0 then bad (text "unexpected `\x7d'")
      if ls.first.isSome then bad (text "`\x7d' doesn't want any addresses")
      modify fun r => { r with depth := r.depth - 1 }
      finish
      return .leave
    else if c = ':' then
      if ls.first.isSome then bad (text ": doesn't want any addresses")
      let name ← labelName
      if name.isEmpty then bad (text "\":\" lacks a label")
      return .label name
    else if c = 'b' then return .jump .always (← labelName)
    else if c = 't' then return .jump .replaced (← labelName)
    else if c = 'T' then return .jump .notReplaced (← labelName)
    else if c = 'a' then return .append (← givenText)
    else if c = 'i' then return .insert (← givenText)
    else if c = 'c' then return .change (← givenText)
    else if c = 'l' then return .list (← argument?)
    else if c = 'q' || c = 'Q' then
      if ls.limit.isSome then bad (text "command only uses one address")
      return .quit (c = 'q') ((← argument?).getD 0)
    else if c = 'r' then return .readFile (← fileName)
    else if c = 'R' then return .readLine (← fileName)
    else if c = 'w' then return .write false (← fileName)
    else if c = 'W' then return .write true (← fileName)
    else if c = 's' then return .substitute (← substitution)
    else if c = 'y' then return .exchangeSigns (← exchanges)
    else bad (text "unknown command: `" ++ [c] ++ text "'")

/-- Reads the commands of all pieces. -/
def commands : (fuel : Nat) → Reader (List Command)
  | 0 => return []
  | fuel + 1 => do
    let _ ← takeWhile fun c => c = ';' || (text " \t\n\r\x0b\x0c").contains c
    let c ← take
    if c.isNone then
      let r ← get
      match r.later with
      | [] => return []
      | s :: later =>
        set { r with source := s, rest := s.contents, count := 0, later }
        commands fuel
    else
      let (ls, sign) ← lines c
      match sign with
      | none => bad (text "missing command")
      | some d =>
        if d = '#' then
          if ls.first.isSome then bad (text "comments don't accept any addresses")
          let isInLine (c : CodePoint) : Bool := c ≠ '\n'
          let isFirst : Bool := (← get).count = 1 && (match (← get).source.origin with
            | .inr n => n = 1
            | .inl _ => true)
          let remark ← takeWhile isInLine
          if isFirst && remark.head? = some ('n' : CodePoint) then modify fun r => { r with isQuiet := true }
          commands fuel
        else
          let a ← action ls d
          return { lines := ls, action := a } :: (← commands fuel)

/-- The script that pieces make, and whether it asks for quiet. -/
def ofSources (isExtended : Bool) (sources : List Source) : Except Fault (List Command × Bool) :=
  let size := (sources.map fun s => s.contents.length + 2).foldl (· + ·) 2
  let nothing : Source := { origin := .inr 1, contents := [] }
  let start : Reading := {
    source := sources.headD nothing, rest := (sources.headD nothing).contents, count := 0
    later := sources.drop 1, depth := 0, isExtended, isQuiet := false }
  match (commands size).run start with
  | .error e => .error e
  | .ok (cs, r) =>
    if r.depth ≠ 0 then
      let lines := (r.source.contents.filter fun c : CodePoint => c = '\n').length + 1
      .error { message := r.source.place 0 lines ++ text ": unmatched `\x7b'" }
    else
      let labels := cs.filterMap fun c => c.action.label?
      match (cs.filterMap fun c => c.action.jumpLabel?).find? fun l => !labels.contains l with
      | some l => .error {
          message := text "can't find label for jump to `" ++ l ++ text "'", status := 4 }
      | none => .ok (cs, r.isQuiet)

end Edit

end Shell

end AgentWorkshop
