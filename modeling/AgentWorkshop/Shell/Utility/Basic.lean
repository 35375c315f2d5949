import AgentWorkshop.Shell.Stream

/-!
# Programs that scripts use

A program takes its arguments, works on the machine and gives its exit status.
Here is what the programs share: options, complaints, names in quotes and the
files they are given.
-/

namespace AgentWorkshop

namespace Shell

/-- A program, given its arguments. -/
abbrev Utility := List Text → Exec Nat

namespace Utility

/-! ## Names in messages -/

/-- The sign after a backslash that stands for a control sign. -/
def escapeLetter? (c : CodePoint) : Option Char :=
  [(7, 'a'), (8, 'b'), (9, 't'), (10, 'n'), (11, 'v'), (12, 'f'), (13, 'r')].lookup c.val

/-- The sign is shown as it is. -/
def isShown (c : CodePoint) : Bool :=
  decide (0x20 ≤ c.val) && decide (c.val < 0x7F)

/-- The escape for a sign that is not shown. -/
def escapeOf (c : CodePoint) : Text :=
  match escapeLetter? c with
  | some letter => ['\\', CodePoint.ofChar letter]
  | none =>
    let digits := (Nat.toDigits 8 c.val).map CodePoint.ofChar
    text "\\" ++ List.replicate (3 - digits.length) ('0' : CodePoint) ++ digits

/-- The signs of a name in single quotes, whose other signs are escaped outside
of them. -/
def quotedSigns : (inEscape : Bool) → Text → Text
  | _, [] => text "'"
  | inEscape, c :: rest =>
    if c.val = 0x27 then
      (if inEscape then text "''" else []) ++ text "'\\''" ++ quotedSigns false rest
    else if isShown c then
      (if inEscape then text "''" else []) ++ c :: quotedSigns false rest
    else (if inEscape then [] else text "'$'") ++ escapeOf c ++ quotedSigns true rest

/-- A sign that means the same in double quotes and in none. -/
def isEverywhereSame (c : CodePoint) : Bool :=
  c.isAsciiLetter || c.isAsciiDigit || (text " '%+,-./:]_").contains c

/-- A name as a shell would read it, always in quotes. -/
def inQuotes (t : Text) : Text :=
  let apostrophe : CodePoint := 0x27
  let isSafe (p : CodePoint × Nat) : Bool :=
    isEverywhereSame p.1 || (p.2 = 0 && (p.1 = '#' || p.1 = '~'))
  if t.contains apostrophe && t.zipIdx.all isSafe then text "\"" ++ t ++ text "\""
  else text "'" ++ quotedSigns false t

/-- A name in quotes if a shell would not read it as it is. -/
def named (t : Text) : Text :=
  let isPlain (c : CodePoint) : Bool :=
    isShown c && !(text " !\"$&'()*:;<=>?[\\^`|").contains c
  let startsPlain := match t with
    | [] => false
    | [c] => !(text "#~\x7b\x7d").contains c
    | c :: _ => !(text "#~").contains c
  if startsPlain && t.all isPlain then t else inQuotes t

/-- A word in quotes. -/
def cited (t : Text) : Text :=
  let sign (c : CodePoint) : Text :=
    if c.val = 0x27 || c = '\\' then ['\\', c] else if isShown c then [c] else escapeOf c
  text "'" ++ t.flatMap sign ++ text "'"

/-! ## Complaints -/

/-- The name by which the program was started. -/
def ownName : Exec Text := do
  return (← Exec.process).command.getD []

/-- Complains on behalf of the program. -/
def complain (t : Text) : Exec Unit := do
  Exec.complain ((← ownName) ++ text ": " ++ t)

/-- Complains about the arguments of a program. -/
def misused (t : Text) (status : Nat := 1) : Exec Nat := do
  complain t
  Exec.complain (text "Try '" ++ (← ownName) ++ text " --help' for more information.")
  return status

/-- Complains that the program got nothing to work on. -/
def missingOperand (what : String) : Exec Nat :=
  misused (text "missing " ++ text what)

/-- Does something for each argument; the status is 1 if one of them failed. -/
def forEach (arguments : List Text) (act : Text → Exec Bool) : Exec Nat := do
  let outcomes ← arguments.mapM act
  return if outcomes.all id then 0 else 1

/-! ## Options -/

/-- Whether an option takes a value. -/
inductive Arity where
  | flag
  | value
  /-- A value that stands in the same word, if at all. -/
  | maybe
  deriving DecidableEq, Repr

/-- The options that a program knows. -/
structure OptionTable where
  /-- Letters, each before a colon if it takes a value, before two if it may. -/
  letters : String
  /-- Names, each with the letter it stands for. -/
  names : List (String × Arity × Char) := []
  /-- The status after a wrong option. -/
  status : Nat := 1
  /-- Options end at the first other word. -/
  isStrict : Bool := false

/-- Options, each with its value, and the other words. -/
structure Arguments where
  options : List (CodePoint × Text)
  operands : List Text

namespace Arguments

/-- An option is given. -/
def has (a : Arguments) (letter : Char) : Bool :=
  a.options.any fun o => o.1 = (letter : CodePoint)

/-- The last value of an option. -/
def value? (a : Arguments) (letter : Char) : Option Text :=
  (a.options.reverse.find? fun o => o.1 = (letter : CodePoint)).map (·.2)

/-- The last of some options that is given. -/
def last? (a : Arguments) (letters : String) : Option CodePoint :=
  (a.options.reverse.find? fun o => (text letters).contains o.1).map (·.1)

end Arguments

namespace OptionTable

/-- Whether an option of a letter takes a value, if it is known. -/
def arityOf? (letter : CodePoint) : Text → Option Arity
  | [] => none
  | c :: rest =>
    if c = letter && c ≠ ':' then
      some (match rest with
        | d :: more => if d ≠ ':' then .flag
          else if more.head? = some (':' : CodePoint) then .maybe else .value
        | [] => .flag)
    else arityOf? letter rest

/-- Reads the letters of one word; `next` is the word after it. The answer tells
whether that is a value. -/
def readLetters (table : OptionTable) (next : Option Text) :
    Text → Except Text (List (CodePoint × Text) × Bool)
  | [] => .ok ([], false)
  | c :: rest =>
    match arityOf? c (text table.letters) with
    | none => .error (text "invalid option -- '" ++ [c] ++ text "'")
    | some .flag => (readLetters table next rest).map fun (os, used) => ((c, []) :: os, used)
    | some .maybe => .ok ([(c, rest)], false)
    | some .value =>
      if !rest.isEmpty then .ok ([(c, rest)], false)
      else
        match next with
        | some value => .ok ([(c, value)], true)
        | none => .error (text "option requires an argument -- '" ++ [c] ++ text "'")

/-- Reads a long option. -/
def readName (table : OptionTable) (next : Option Text) (word : Text) :
    Except Text (List (CodePoint × Text) × Bool) :=
  let isName (c : CodePoint) : Bool := c ≠ '='
  let name := word.takeWhile isName
  let value := (word.dropWhile isName).tail?
  let exact := table.names.filter fun n => text n.1 = name
  let starting := table.names.filter fun n => name.isPrefixOf (text n.1)
  let shown (n : String) : Text := text "--" ++ text n
  let found := if exact.isEmpty then starting else exact
  match found with
  | [] => .error (text "unrecognized option '--" ++ word ++ text "'")
  | (full, arity, letter) :: others =>
    if others.any fun n => n.2.2 ≠ letter then
      .error (text "option '--" ++ name ++ text "' is ambiguous; possibilities:" ++
        found.flatMap fun n => text " '" ++ shown n.1 ++ text "'")
    else
      match arity, value with
      | .flag, some _ =>
        .error (text "option '" ++ shown full ++ text "' doesn't allow an argument")
      | .flag, none => .ok ([(letter, [])], false)
      | .maybe, value => .ok ([(letter, value.getD [])], false)
      | .value, some value => .ok ([(letter, value)], false)
      | .value, none =>
        match next with
        | some value => .ok ([(letter, value)], true)
        | none => .error (text "option '" ++ shown full ++ text "' requires an argument")

/-- Reads arguments. -/
def read (table : OptionTable) : List Text → Except Text Arguments
  | [] => .ok ⟨[], []⟩
  | word :: rest =>
    let goOn (found : Except Text (List (CodePoint × Text) × Bool)) : Except Text Arguments :=
      match found, rest with
      | .error e, _ => .error e
      | .ok (os, true), _ :: others =>
        (table.read others).map fun a => { a with options := os ++ a.options }
      | .ok (os, _), rest => (table.read rest).map fun a => { a with options := os ++ a.options }
    if word = text "--" then .ok ⟨[], rest⟩
    else
      match word with
      | c :: d :: more =>
        if c ≠ '-' then
          if table.isStrict then .ok ⟨[], word :: rest⟩
          else (table.read rest).map fun a => { a with operands := word :: a.operands }
        else if d = '-' then goOn (table.readName rest.head? more)
        else goOn (table.readLetters rest.head? (d :: more))
      | _ =>
        if table.isStrict then .ok ⟨[], word :: rest⟩
        else (table.read rest).map fun a => { a with operands := word :: a.operands }

/-- Runs a program with its arguments read. -/
def run (table : OptionTable) (words : List Text) (act : Arguments → Exec Nat) : Exec Nat :=
  match table.read words with
  | .ok a => act a
  | .error e => misused e table.status

end OptionTable

/-! ## Files -/

/-- A descriptor that no script uses. -/
def spareDescriptor : Nat := 1000

/-- The bytes of a file, or of the input for a hyphen. -/
def contentsOf (file : Text) : Exec (Except Errno Bytes) := do
  if file = text "-" then Exec.readAll 0
  else
    match ← Exec.openFile .read file with
    | .error e => return .error e
    | .ok id =>
      Exec.attach spareDescriptor id
      let found ← Exec.readAll spareDescriptor
      Exec.close spareDescriptor
      return found

/-- The files to read, or else the input. -/
def orInput (files : List Text) : List Text :=
  if files.isEmpty then [text "-"] else files

/-- Writes a file anew. -/
def writeFile (path : Text) (contents : Bytes) (appends : Bool := false) :
    Exec (Option Errno) := do
  match ← Exec.openFile (if appends then .append else .write) path with
  | .error e => return some e
  | .ok id =>
    Exec.attach spareDescriptor id
    let fault ← Exec.write? spareDescriptor contents
    Exec.close spareDescriptor
    return fault

/-- The lines of a text, each with the line end after it, which the last one may
lack. -/
def linesOf (t : Text) : List Text :=
  t.foldr (fun (c : CodePoint) ls =>
    match ls with
    | l :: rest => if c = '\n' then [c] :: l :: rest else (c :: l) :: rest
    | [] => [[c]]) []

/-- A line without its end. -/
def chomped (l : Text) : Text :=
  if l.getLast? = some ('\n' : CodePoint) then l.dropLast else l

/-- The exit statuses of programs that could not write their output, where they
are not 1. -/
def writeStatuses : List (String × Nat) :=
  [("sort", 2), ("ls", 2), ("grep", 2), ("egrep", 2), ("fgrep", 2), ("rgrep", 2), ("diff", 2),
    ("cmp", 2), ("printenv", 2), ("expr", 3), ("tty", 3), ("sed", 4), ("env", 125), ("nice", 125)]

/-- The programs that do not say why an output that is open cannot be written. -/
def tersePrograms : List String :=
  ["wc", "cksum", "md5sum", "sha1sum", "sha224sum", "sha256sum", "sha384sum", "sha512sum", "find"]

/-- What a program says when it could not write its output. -/
def writeComplaints (program : Text) (isClosed : Bool) (e : Errno) : List Text :=
  let isProgram (s : String) : Bool := program = text s
  let usual := text "write error" ++
    if !isClosed && tersePrograms.any isProgram then [] else text ": " ++ e.reason
  let stream := text "'standard output': " ++ e.reason
  if isProgram "sed" then
    if e = .badDescriptor && !isClosed then []
    else [text "couldn't " ++ text (if isClosed then "close" else "flush") ++ text " stdout: " ++ e.reason]
  else if isProgram "sort" then [text "fflush failed: " ++ stream, text "write error"]
  else if isProgram "tee" then [stream]
  else if isProgram "find" then [stream, usual]
  else if isProgram "diff" || isProgram "cmp" then [text "standard output: " ++ e.reason]
  else [usual]

/-- Runs a program, which fails, too, if it cannot write its output. -/
def guarded (program : Text) (act : Exec Nat) : Exec Nat := do
  Exec.update fun p => { p with writeFault := none }
  let answer ← act
  match (← Exec.process).writeFault with
  | none => return answer
  | some e =>
    Exec.update fun p => { p with writeFault := none }
    let complaints := writeComplaints program (← Exec.channel? 1).isNone e
    if complaints.isEmpty then return answer
    complaints.forM complain
    return ((writeStatuses.find? fun s => program = text s.1).map (·.2)).getD 1

end Utility

end Shell

end AgentWorkshop
