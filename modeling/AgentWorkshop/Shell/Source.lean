import AgentWorkshop.Shell.Script

/-!
# Reading the text of a script

A `Source` is a text that is being read, and a `Read` is a step of its reader.
A script is read command by command, since running one may change how the next
is read.
-/

namespace AgentWorkshop

namespace Shell

/-! ## Signs -/

/-- A letter or an underscore. -/
def isNameStart (c : CodePoint) : Bool :=
  c.isAsciiLetter || c = '_'

/-- A code point of a name. -/
def isNamePart (c : CodePoint) : Bool :=
  isNameStart c || c.isAsciiDigit

/-- The whole text is a name. -/
def isName : Text → Bool
  | [] => false
  | c :: rest => isNameStart c && rest.all isNamePart

/-- The parameters that are written with one sign. -/
def isSpecialName (c : CodePoint) : Bool :=
  (text "@*#?-$!").contains c || c.isAsciiDigit

/-- A blank between words. -/
def isGap (c : CodePoint) : Bool :=
  c = ' ' || c = '\t'

/-- A sign that ends a word. -/
def endsWord (c : CodePoint) : Bool :=
  isGap c || (text "\n;&|<>()").contains c

/-- The sign around a script whose output is meant. -/
def backquote : CodePoint := 0x60

/-- The sign around text that only stands for itself. -/
def apostrophe : CodePoint := 0x27

/-- The name before an equals sign at the start of a text, and what follows the sign. -/
def settingAt? (t : Text) : Option (Text × Text) :=
  let name := t.takeWhile fun c : CodePoint => c ≠ '='
  match t.dropWhile fun c : CodePoint => c ≠ '=' with
  | _ :: value => if isName name then some (name, value) else none
  | [] => none

/-! ## Tokens -/

/-- What a script is made of. -/
inductive Token where
  | word (w : Word)
  /-- One of the words of the language. -/
  | keyword (t : Text)
  /-- The start of a redirection of a stream. -/
  | redirect (descriptor : Nat) (sign : Text)
  | operator (t : Text)
  | newline
  | ending

namespace Token

/-- The words of the language. -/
def keywords : List Text :=
  ["!", "case", "do", "done", "elif", "else", "esac", "fi", "for", "if", "in", "then", "until",
    "while", "\x7b", "\x7d"].map text

/-- What a message calls a token. -/
def name : Token → Text
  | .word _ => text "word"
  | .keyword t => text "\"" ++ t ++ text "\""
  | .redirect _ _ => text "redirection"
  | .operator t => text "\"" ++ t ++ text "\""
  | .newline => text "newline"
  | .ending => text "end of file"

/-- The token is this operator. -/
def isOperator (t : Text) : Token → Bool
  | .operator s => s = t
  | _ => false

/-- The token is this word of the language. -/
def isKeyword (t : Text) : Token → Bool
  | .keyword s => s = t
  | _ => false

end Token

/-! ## Sources -/

/-- An alias whose text is being read. -/
structure OpenAlias where
  name : Text
  /-- How much text is left where its text ends. -/
  left : Nat
  /-- The word after it may be an alias, too. -/
  passesOn : Bool
  deriving DecidableEq, Repr

/-- A document whose text follows the line that is being read. -/
structure Awaited where
  number : Nat
  /-- The line that ends it. -/
  mark : Text
  dropTabs : Bool
  /-- Its parameters are not expanded. -/
  isVerbatim : Bool
  deriving DecidableEq, Repr

/-- A text that is being read. -/
structure Source where
  rest : Text
  line : Nat
  aliases : List (Text × Text)
  openAliases : List OpenAlias := []
  /-- The aliases whose text the latest word stood in. -/
  busy : List Text := []
  /-- A token that was read too early. -/
  again : Option Token := none
  awaited : List Awaited := []
  /-- The documents with their numbers, the latest first. -/
  documents : List (Nat × Word)
  /-- The number of the next document. -/
  nextDocument : Nat

/-- What is wrong with a script, and the line where that is noticed. -/
structure ReadFault where
  line : Nat
  message : Text
  deriving DecidableEq, Repr

/-- A step of a reader. -/
abbrev Read := EStateM ReadFault Source

namespace Read

/-- Stops at the current line. -/
def fail {α : Type} (message : Text) : Read α := fun s =>
  .error ⟨s.line, message⟩ s

/-- What is left. -/
def rest : Read Text := do
  return (← get).rest

/-- Goes on with another rest. -/
def goOn (rest : Text) : Read Unit :=
  modify fun s => { s with rest }

/-- Counts the lines that a passed text ends. -/
def countLines (passed : Text) : Read Unit :=
  modify fun s => { s with line := s.line + passed.count (10 : CodePoint) }

/-- A text without the escaped line ends at its start, and how many those are. -/
def joined : Text → Nat → Text × Nat
  | c :: d :: rest, n =>
    if c = '\\' && d = '\n' then joined rest (n + 1) else (c :: d :: rest, n)
  | t, n => (t, n)

/-- Passes over escaped line ends. -/
def joinLines : Read Unit :=
  modify fun s =>
    let (rest, n) := joined s.rest 0
    { s with rest, line := s.line + n }

/-- The next sign, which is not passed. -/
def peek : Read (Option CodePoint) := do
  return (← rest).head?

/-- The next sign after escaped line ends, which is not passed. -/
def peekJoined : Read (Option CodePoint) := do
  joinLines
  peek

/-- Passes one sign. -/
def pass : Read Unit :=
  modify fun s => { s with rest := s.rest.drop 1 }

/-- Takes the longest start whose signs are accepted, across escaped line ends. -/
def takeJoined (accepts : CodePoint → Bool) : (fuel : Nat) → Read Text
  | 0 => pure []
  | fuel + 1 => do
    joinLines
    let s ← rest
    let taken := s.takeWhile accepts
    if taken.isEmpty then return []
    goOn (s.drop taken.length)
    return taken ++ (← takeJoined accepts fuel)

/-- Takes the longest start whose signs are accepted. -/
def takeRun (accepts : CodePoint → Bool) : Read Text := do
  let s ← rest
  let taken := s.takeWhile accepts
  goOn (s.drop taken.length)
  countLines taken
  return taken

/-- Reads another text with a step, and comes back. Documents are kept. -/
def within {α : Type} (t : Text) (line : Nat) (act : Read α) : Read α := fun s =>
  let inside := { s with
    rest := t, line, openAliases := [], busy := [], again := none, awaited := [] }
  match act inside with
  | .ok a after =>
    .ok a { s with documents := after.documents, nextDocument := after.nextDocument }
  | .error f _ => .error f s

end Read

end Shell

end AgentWorkshop
