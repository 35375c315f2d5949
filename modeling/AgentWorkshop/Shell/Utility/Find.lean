import AgentWorkshop.Shell.Pattern
import AgentWorkshop.Shell.Utility.Launch

/-!
# Finding files

`find` goes through directories and does for each file what an expression says.
-/

namespace AgentWorkshop

namespace Shell

namespace Utility

/-! ## Expressions -/

/-- How a number is compared. -/
inductive Bound where
  | exactly (n : Nat)
  | more (n : Nat)
  | less (n : Nat)

/-- The number is within the bound. -/
def Bound.holds (n : Nat) : Bound → Bool
  | exactly m => n = m
  | more m => decide (m < n)
  | less m => decide (n < m)

/-- An expression of a search for files. -/
inductive Finding where
  | always (b : Bool)
  | name (ignoresCase : Bool) (pattern : Text)
  | path (ignoresCase : Bool) (pattern : Text)
  /-- The file is of one of some kinds. -/
  | kinds (letters : Text)
  | empty
  /-- So many units of so many bytes, the last of which may not be full. -/
  | size (unit : Nat) (b : Bound)
  | permissions (mode : Nat)
  | print (stop : CodePoint)
  | printForm (form : Text)
  | delete
  /-- What is below is left out. -/
  | prune
  | quit
  | run (words : List Text)
  /-- Runs a program once for all files. -/
  | runAll (number : Nat) (words : List Text)
  | not (e : Finding)
  | and (first second : Finding)
  | or (first second : Finding)
  | both (first second : Finding)
  deriving Inhabited

namespace Finding

/-- The expression does something by itself, so that nothing is printed besides. -/
def acts : Finding → Bool
  | print _ | printForm _ | delete | run _ | runAll _ _ => true
  | not e => e.acts
  | and a b => a.acts || b.acts
  | or a b => a.acts || b.acts
  | both a b => a.acts || b.acts
  | _ => false

/-- The expression asks for what is below a directory to come first. -/
def deletes : Finding → Bool
  | delete => true
  | not e => e.deletes
  | and a b => a.deletes || b.deletes
  | or a b => a.deletes || b.deletes
  | both a b => a.deletes || b.deletes
  | _ => false

/-- The programs that are run once. -/
def calls : Finding → List (Nat × List Text)
  | runAll n words => [(n, words)]
  | not e => e.calls
  | and a b => a.calls ++ b.calls
  | or a b => a.calls ++ b.calls
  | both a b => a.calls ++ b.calls
  | _ => []

/-! ## Reading expressions -/

/-- What is left to read, and what holds for the whole search. -/
structure Reading where
  rest : List Text
  before : Text := []
  least : Nat := 0
  most : Option Nat := none
  isDepthFirst : Bool := false
  follows : Bool := false
  calls : Nat := 0

/-- A step of the reader. -/
abbrev Reader := StateT Reading (Except (List Text))

/-- The expression is wrong. -/
def wrong {α : Type} (t : Text) : Reader α := throw [t]

/-- The next word, if there is one. -/
def next? : Reader (Option Text) := do
  return (← get).rest.head?

/-- Takes the next word. -/
def take : Reader Text := do
  let s ← get
  set { s with rest := s.rest.drop 1, before := s.rest.headD [] }
  return s.rest.headD []

/-- A word between signs. -/
def shown (t : Text) : Text := text "`" ++ t ++ text "'"

/-- The argument of a word of the expression. -/
def argument (word : Text) : Reader Text := do
  match ← next? with
  | some _ =>
    let found ← take
    modify fun s => { s with before := word }
    return found
  | none => wrong (text "missing argument to " ++ shown word)

/-- A number that may stand after a sign. -/
def bound? (t : Text) : Option Bound :=
  let number (digits : Text) : Option Nat :=
    if digits.isEmpty || !digits.all CodePoint.isAsciiDigit then none
    else some (digits.foldl (fun n c => 10 * n + (c.val - 0x30)) 0)
  match t with
  | c :: rest =>
    if c = '+' then (number rest).map .more
    else if c = '-' then (number rest).map .less
    else (number t).map .exactly
  | [] => none

/-- The number of a depth. -/
def depth (word : Text) : Reader Nat := do
  let t ← argument word
  if t.isEmpty || !t.all CodePoint.isAsciiDigit then
    wrong (text "Expected a positive decimal integer argument to " ++ word ++
      text ", but got " ++ cited t)
  return t.foldl (fun n c => 10 * n + (c.val - 0x30)) 0

/-- The size that a word asks for. -/
def sizeOf (t : Text) : Reader Finding := do
  let units : List (Char × Nat) :=
    [('c', 1), ('w', 2), ('b', 512), ('k', 1024), ('M', 1048576), ('G', 1073741824)]
  let last := t.getLast?.getD 0
  let found := units.find? fun u => last = CodePoint.ofChar u.1
  let (number, unit) := match found with
    | some u => (t.dropLast, u.2)
    | none => (t, 512)
  match bound? number with
  | some b => return .size unit b
  | none => wrong (text "Invalid argument " ++ shown t ++ text " to -size")

/-- The words of a program up to the sign that ends them, and whether it is run
once for all files. -/
def program (word : Text) : (fuel : Nat) → List Text → Reader (List Text × Bool)
  | 0, _ => wrong (text "missing argument to " ++ shown word)
  | fuel + 1, words => do
    match ← next? with
    | none => wrong (text "missing argument to " ++ shown word)
    | some w =>
      let _ ← take
      if w = text ";" then
        if words.isEmpty then wrong (text "invalid argument `;' to " ++ shown word)
        modify fun s => { s with before := word }
        return (words, false)
      else if w = text "+" && words.getLast? = some (text "\x7b\x7d") then
        modify fun s => { s with before := word }
        return (words.dropLast, true)
      else program word fuel (words ++ [w])

/-- A test or an action, after another one. -/
def single (before word : Text) : Reader Finding := do
  let is (t : String) : Bool := word = text t
  if is "-true" || is "-noleaf" || is "-mount" || is "-xdev" then return .always true
  else if is "-false" then return .always false
  else if is "-follow" then
    modify fun s => { s with follows := true }
    return .always true
  else if is "-name" then return .name false (← argument word)
  else if is "-iname" then return .name true (← argument word)
  else if is "-path" || is "-wholename" then return .path false (← argument word)
  else if is "-ipath" || is "-iwholename" then return .path true (← argument word)
  else if is "-type" then
    let letters := (← argument word).filter fun c : CodePoint => c ≠ ','
    match letters.find? fun c => !(text "bcdpflsD").contains c with
    | some c => wrong (text "Unknown argument to -type: " ++ [c])
    | none => return .kinds letters
  else if is "-empty" then return .empty
  else if is "-size" then sizeOf (← argument word)
  else if is "-perm" then
    let mode ← argument word
    let digits := mode.dropWhile fun c => (text "-/").contains c
    if digits.isEmpty || !digits.all fun c => (text "01234567").contains c then
      wrong (text "invalid mode " ++ shown mode)
    return .permissions (digits.foldl (fun n c => 8 * n + (c.val - 0x30)) 0)
  else if is "-print" then return .print '\n'
  else if is "-print0" then return .print 0
  else if is "-printf" then return .printForm (← argument word)
  else if is "-delete" then return .delete
  else if is "-prune" then return .prune
  else if is "-quit" then return .quit
  else if is "-depth" || is "-d" then
    modify fun s => { s with isDepthFirst := true }
    return .always true
  else if is "-maxdepth" then
    let n ← depth word
    modify fun s => { s with most := some n }
    return .always true
  else if is "-mindepth" then
    let n ← depth word
    modify fun s => { s with least := n }
    return .always true
  else if is "-exec" || is "-execdir" then
    let (words, isOnce) ← program word ((← get).rest.length + 1) []
    if isOnce then
      let n := (← get).calls
      modify fun s => { s with calls := n + 1 }
      return .runAll n words
    else return .run words
  else if (text "-").isPrefixOf word then wrong (text "unknown predicate " ++ shown word)
  else
    throw [text "paths must precede expression: " ++ shown word,
      text "possible unquoted pattern after predicate " ++ shown before]

mutual

/-- Alternatives with a comma between them. -/
def all : (fuel : Nat) → Reader Finding
  | 0 => wrong (text "invalid expression")
  | fuel + 1 => do
    let first ← either fuel
    if (← next?) = some (text ",") then
      let _ ← take
      return .both first (← all fuel)
    else return first

/-- Alternatives. -/
def either : (fuel : Nat) → Reader Finding
  | 0 => wrong (text "invalid expression")
  | fuel + 1 => do
    let first ← conjunction fuel
    let w ← next?
    if w = some (text "-o") || w = some (text "-or") then
      let _ ← take
      return .or first (← either fuel)
    else return first

/-- Tests one after the other. -/
def conjunction : (fuel : Nat) → Reader Finding
  | 0 => wrong (text "invalid expression")
  | fuel + 1 => do
    let first ← factor fuel
    match ← next? with
    | none => return first
    | some w =>
      if w = text "-a" || w = text "-and" then
        let _ ← take
        return .and first (← conjunction fuel)
      else if [text "-o", text "-or", text ",", text ")"].contains w then return first
      else return .and first (← conjunction fuel)

/-- A test that may be denied or stand in brackets. -/
def factor : (fuel : Nat) → Reader Finding
  | 0 => wrong (text "invalid expression")
  | fuel + 1 => do
    let before := (← get).before
    let w ← take
    if w = text "!" || w = text "-not" then
      if (← next?).isNone then wrong (text "expected an expression after " ++ cited w)
      return .not (← factor fuel)
    else if w = text "(" then
      if (← next?).isNone then
        wrong (text ("invalid expression; expected to find a ')' but didn't see one. " ++
          "Perhaps you need an extra predicate after '('"))
      let e ← all fuel
      if (← next?) ≠ some (text ")") then
        wrong (text ("invalid expression; I was expecting to find a ')' somewhere " ++
          "but did not see one."))
      let _ ← take
      return e
    else if [text "-a", text "-and", text "-o", text "-or", text ","].contains w then
      wrong (text "invalid expression; you have used a binary operator " ++ cited w ++
        text " with nothing before it.")
    else single before w

end

/-- The expression that words make. -/
def ofWords (words : List Text) : Except (List Text) (Finding × Reading) :=
  let start : Reading := { rest := words }
  if words.isEmpty then .ok (.print '\n', start)
  else
    match (all (8 * words.length + 8)).run start with
    | .error e => .error e
    | .ok (e, s) =>
      match s.rest with
      | [] => .ok (if e.acts then e else .and e (.print '\n'), s)
      | _ :: _ => .error [text "invalid expression; you have too many ')'"]

end Finding

/-! ## Walking -/

/-- A file that was found. -/
structure Found where
  path : Text
  /-- The path from which the search began. -/
  start : Text
  address : Address
  kind : Kind
  depth : Nat

/-- Where a search stands. -/
structure FindState where
  status : Nat := 0
  isPruned : Bool := false
  isOver : Bool := false
  /-- The files for the programs that are run once. -/
  files : List (Nat × Text) := []

/-- A step of a search. -/
abbrev Finder := StateT FindState Exec

/-- The letter of a kind. -/
def kindLetter : Kind → CodePoint
  | .directory => 'd'
  | .file => 'f'
  | .link _ => 'l'

/-- A search complains, which makes it fail. -/
def findFault (t : Text) : Finder Unit := do
  complain t
  modify fun s => { s with status := 1 }

/-- The number of bytes of a file. -/
def sizeOfFile (m : Machine) (f : Found) : Nat :=
  match f.kind with
  | .file => (m.contentsAt f.address).length
  | .link target => target.length
  | .directory => 4096

/-- The name at the end of a path. -/
def ownNameOf (path : Text) : Text :=
  let isSlash (c : CodePoint) : Bool := c = '/'
  let trimmed := (path.reverse.dropWhile isSlash).reverse
  if trimmed.isEmpty then path.take 1 else lastName trimmed

/-- A form with its directives replaced. -/
def findForm (m : Machine) (f : Found) : (fuel : Nat) → Text → Text
  | 0, _ => []
  | fuel + 1, c :: d :: rest =>
    if c = '%' then
      let value : Option Text :=
        if d = 'p' then some f.path
        else if d = 'f' then some (ownNameOf f.path)
        else if d = 's' then some (Text.ofNat (sizeOfFile m f))
        else if d = 'd' then some (Text.ofNat f.depth)
        else if d = 'y' then some [kindLetter f.kind]
        else if d = 'H' then some f.start
        else if d = 'P' then
          let below := f.path.drop f.start.length
          some (if below.head? = some ('/' : CodePoint) then below.drop 1 else below)
        else if d = 'h' then
          some (match f.path.dropLast.reverse.dropWhile fun c : CodePoint => c ≠ '/' with
            | [] => text "."
            | _ :: before => before.reverse)
        else if d = 'l' then
          some (match f.kind with
            | .link target => target
            | _ => [])
        else if d = '%' then some (text "%")
        else none
      (value.getD [c, d]) ++ findForm m f fuel rest
    else if c = '\\' then
      let byte : CodePoint :=
        if d = 'n' then '\n' else if d = 't' then '\t' else if d = '0' then 0 else d
      byte :: findForm m f fuel rest
    else c :: findForm m f fuel (d :: rest)
  | _, t => t

/-- The pattern fits a text. -/
def fitsPattern (ignoresCase : Bool) (pattern t : Text) : Bool :=
  let lower (t : Text) : Text := if ignoresCase then Text.asciiLower t else t
  (Marked.ofText (lower pattern)).pattern.accepts (lower t)

/-- Runs a program. Answers whether it ended well. -/
def runFor (starter : Starter) (words : List Text) : Finder Bool := do
  match ← starter.spawn words with
  | .error e =>
    complain (cited (words.headD []) ++ text ": " ++ e.reason)
    return false
  | .ok ending => return ending.code = 0

/-- What an expression says of a file. -/
def evaluate (starter : Starter) (f : Found) : Finding → Finder Bool
  | .always b => return b
  | .name ignoresCase pattern => return fitsPattern ignoresCase pattern (ownNameOf f.path)
  | .path ignoresCase pattern => return fitsPattern ignoresCase pattern f.path
  | .kinds letters => return letters.contains (kindLetter f.kind)
  | .empty => do
    let m ← getThe Machine
    return match f.kind with
      | .file => (m.contentsAt f.address).isEmpty
      | .directory => (m.namesIn f.address).isEmpty
      | .link _ => false
  | .size unit b => do
    let n := sizeOfFile (← getThe Machine) f
    return b.holds ((n + unit - 1) / unit)
  | .permissions mode => return (← getThe Machine).modeOf f.address = mode
  | .print stop => do
    let act : Exec Unit := Exec.print (f.path ++ [stop])
    act
    return true
  | .printForm form => do
    let t := findForm (← getThe Machine) f (form.length + 1) form
    let act : Exec Unit := Exec.print t
    act
    return true
  | .delete => do
    if f.path = text "." then return true
    let m ← getThe Machine
    if f.kind = .directory && !(m.namesIn f.address).isEmpty then
      findFault (text "cannot delete " ++ cited f.path ++ text ": " ++ Errno.reason .notEmpty)
      return false
    let act : Exec Unit := Exec.remove f.address
    act
    return true
  | .prune => do
    modify fun s => { s with isPruned := true }
    return true
  | .quit => do
    modify fun s => { s with isOver := true }
    return true
  | .run words => runFor starter (words.map fun w => filled f.path (w.length + 1) w)
  | .runAll n _ => do
    modify fun s => { s with files := s.files ++ [(n, f.path)] }
    return true
  | .not e => return !(← evaluate starter f e)
  | .and a b => do
    if ← evaluate starter f a then
      if (← get).isOver then return true
      evaluate starter f b
    else return false
  | .or a b => do
    if ← evaluate starter f a then return true
    if (← get).isOver then return false
    evaluate starter f b
  | .both a b => do
    let _ ← evaluate starter f a
    if (← get).isOver then return true
    evaluate starter f b
where
  /-- A word with the path for each pair of braces. -/
  filled (path : Text) : (fuel : Nat) → Text → Text
    | 0, _ => []
    | fuel + 1, c :: d :: rest =>
      if c = '\x7b' && d = '\x7d' then path ++ filled path fuel rest
      else c :: filled path fuel (d :: rest)
    | _, t => t

/-- Goes through a file and what is below it. -/
def walkFrom (starter : Starter) (e : Finding) (s : Finding.Reading) :
    (fuel : Nat) → Found → Finder Unit
  | 0, _ => pure ()
  | fuel + 1, f => do
    if (← get).isOver then return
    let isMeant := decide (s.least ≤ f.depth)
    modify fun s => { s with isPruned := false }
    if isMeant && !s.isDepthFirst then
      let _ ← evaluate starter f e
    let isPruned := (← get).isPruned && !s.isDepthFirst
    if f.kind = .directory && !isPruned && s.most.all fun most => decide (f.depth < most) then
      for name in (← getThe Machine).namesIn f.address do
        let address := f.address ++ [name.widen]
        match (← getThe Machine).kind? address with
        | some kind =>
          walkFrom starter e s fuel {
            path := if f.path.getLast? = some ('/' : CodePoint) then f.path ++ name
              else f.path ++ text "/" ++ name
            start := f.start, address, kind, depth := f.depth + 1 }
        | none => pure ()
    if isMeant && s.isDepthFirst && !(← get).isOver then
      let _ ← evaluate starter f e

/-- How deep a search goes. -/
def findLimit : Nat := 1000

/-- Searches from one path. -/
def findFrom (starter : Starter) (e : Finding) (s : Finding.Reading) (path : Text) :
    Finder Unit := do
  if (← get).isOver then return
  let m ← getThe Machine
  match m.resolveFrom m.process.directory s.follows path with
  | .ok (.taken address kind) =>
    walkFrom starter e s findLimit { path, start := path, address, kind, depth := 0 }
  | .ok (.free _ _) => findFault (cited path ++ text ": " ++ Errno.reason .noEntry)
  | .error fault => findFault (cited path ++ text ": " ++ fault.reason)

/-- Does for files what an expression says. -/
def find : Launcher := fun starter words => do
  let isLinkOption (w : Text) : Bool := [text "-H", text "-L", text "-P"].contains w
  let options := words.takeWhile isLinkOption
  let words := words.drop options.length
  let isPath (w : Text) : Bool :=
    !((text "-").isPrefixOf w && w.length ≠ 1) && w ≠ text "!" && w ≠ text "("
  let paths := words.takeWhile isPath
  match Finding.ofWords (words.drop paths.length) with
  | .error [t, more] =>
    complain t
    let isFile := (← get).resolveFrom (← Exec.process).directory false
      ((t.drop (text "paths must precede expression: `").length).dropLast)
    match isFile with
    | .ok (.taken _ _) => complain (more ++ text "?")
    | _ => pure ()
    return 1
  | .error ts =>
    ts.forM complain
    return 1
  | .ok (e, s) =>
    let s := { s with
      follows := s.follows || options.getLast? = some (text "-L")
      isDepthFirst := s.isDepthFirst || e.deletes }
    let act : Finder Unit := do
      (if paths.isEmpty then [text "."] else paths).forM (findFrom starter e s)
      e.calls.forM fun (n, words) => do
        let files := ((← get).files.filter fun p => p.1 = n).map (·.2)
        if !files.isEmpty then
          if !(← runFor starter (words ++ files)) then modify fun s => { s with status := 1 }
    let (_, final) ← act.run {}
    return final.status

end Utility

end Shell

end AgentWorkshop
