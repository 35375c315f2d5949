import AgentWorkshop.Shell.Word

/-!
# Reading commands

`Read.line` reads the commands of one line of a script, which may extend over
several lines of its text if something in them is still open.
-/

namespace AgentWorkshop

namespace Shell

/-- The built-in commands that belong to the language; no function has such a name. -/
def specialNames : List Text :=
  [".", ":", "break", "continue", "eval", "exec", "exit", "export", "readonly", "return", "set",
    "shift", "times", "trap", "unset"].map text

/-- What a reader of tokens looks for. -/
structure Wanted where
  /-- Line ends are passed over. -/
  passesLines : Bool := false
  /-- Words of the language are told from other words. -/
  keywords : Bool := false
  /-- Aliases are replaced by their texts. -/
  aliases : Bool := false

namespace Wanted

/-- At the start of a command. -/
def command : Wanted := { keywords := true, aliases := true }

/-- At the start of a command that may stand on a later line. -/
def commandBelow : Wanted := { passesLines := true, keywords := true, aliases := true }

end Wanted

namespace Read

/-! ## Documents -/

/-- A line whose end is escaped. -/
def endsEscaped (line : Text) : Bool :=
  (line.reverse.takeWhile fun c : CodePoint => c = '\\').length % 2 = 1

/-- The text of a document at the start of some lines, the lines after it, and whether a
mark ends it. -/
def documentLines (a : Awaited) (continued : Bool) : List Text → Text × List Text × Bool
  | [] => ([], [], false)
  | line :: more =>
    let line := if a.dropTabs && !continued then line.dropWhile fun c : CodePoint => c = '\t'
      else line
    if !continued && line = a.mark then ([], more, true)
    else
      let (body, after, isEnded) := documentLines a (!a.isVerbatim && endsEscaped line) more
      (line ++ (if more.isEmpty then [] else text "\n") ++ body, after, isEnded)

/-- The fault of a document, told where it is noticed: braces that are left open behind the
mark, scripts that are left open at the end of the text. -/
def documentFault (start : Nat) (body rest : Text) (isEnded : Bool) (f : ReadFault) : ReadFault :=
  let lines (t : Text) : Nat := start + t.count (10 : CodePoint)
  if !isEnded || f.line ≠ lines body then f
  else if (text "Missing '").isPrefixOf f.message then { f with line := f.line + 1 }
  else { f with line := lines rest }

/-- Keeps the text of a document. -/
def keepDocument (inner : Inner) (a : Awaited) (body : Text) (isEnded : Bool := false) :
    Read Unit := do
  let s ← get
  let w ← if a.isVerbatim then pure [.literal body true]
    else
      try
        within body s.line (word inner false .document)
      catch f => throw (documentFault s.line body s.rest isEnded f)
  modify fun s => { s with documents := (a.number, w) :: s.documents }

/-- Reads the documents that are awaited. -/
def takeDocuments (inner : Inner) : Read Unit := do
  let awaited := (← get).awaited
  modify fun s => { s with awaited := [] }
  awaited.forM fun a => do
    let ls := (← rest).lines
    let (body, after, isEnded) := documentLines a false ls
    keepDocument inner a body isEnded
    modify fun s => { s with
      rest := Text.unlines after
      line := s.line + (ls.length - max after.length 1) }

/-- The documents that are awaited turn out to be empty. -/
def dropDocuments (inner : Inner) : Read Unit := do
  let awaited := (← get).awaited
  modify fun s => { s with awaited := [] }
  awaited.forM fun a => keepDocument inner a []

/-! ## Tokens -/

/-- Gives a token back, to be read again. -/
def putBack (t : Token) : Read Unit :=
  modify fun s => { s with again := some t }

/-- Stops at a token that should not be there. -/
def unexpected {α : Type} (found : Token) (expected : Option Token := none) : Read α :=
  fail (text "Syntax error: " ++ found.name ++ text " unexpected" ++
    match expected with
    | some t => text " (expecting " ++ t.name ++ text ")"
    | none => [])

/-- Passes over blanks and comments. -/
def skipGaps : (fuel : Nat) → Read Unit
  | 0 => pure ()
  | fuel + 1 => do
    match ← peekJoined with
    | some c =>
      if isGap c then
        pass
        skipGaps fuel
      else if c = '#' then
        goOn ((← rest).dropWhile fun c : CodePoint => c ≠ '\n')
        skipGaps fuel
    | none => pure ()

/-- Forgets the aliases whose text is over. Answers whether the next word may
be an alias because of one of them. -/
def closeAliases : Read Bool := do
  let s ← get
  let left := s.rest.length
  let (still, ended) := s.openAliases.partition fun a => decide (a.left < left)
  set { s with openAliases := still }
  return ended.any (·.passesOn)

/-- Passes the next sign if it is the given one. -/
def passIf (c : CodePoint) : Read Bool := do
  if (← peekJoined) = some c then
    pass
    return true
  else return false

/-- Reads the sign of a redirection. -/
def redirectSign (descriptor : Option Nat) (c : CodePoint) : Read Token := do
  let made (sign : String) : Read Token :=
    return .redirect (descriptor.getD (if c = '<' then 0 else 1)) (text sign)
  pass
  if c = '>' then
    if ← passIf '>' then made ">>"
    else if ← passIf '|' then made ">|"
    else if ← passIf '&' then made ">&"
    else made ">"
  else if ← passIf '<' then
    if ← passIf '-' then made "<<-" else made "<<"
  else if ← passIf '&' then made "<&"
  else if ← passIf '>' then made "<>"
  else made "<"

/-- Reads a token of the text. -/
def rawToken (inner : Inner) (isMark : Bool) : Read (Token × Bool) := do
  match (← get).again with
  | some t =>
    modify fun s => { s with again := none }
    return (t, false)
  | none =>
    skipGaps (2 * (← rest).length + 1)
    let passesOn ← closeAliases
    modify fun s => { s with busy := s.openAliases.map (·.name) }
    let twice (c : CodePoint) : Read Token := do
      pass
      if ← passIf c then return .operator [c, c] else return .operator [c]
    let token ← match ← peek with
      | none => do
        dropDocuments inner
        pure Token.ending
      | some c =>
        if c = '\n' then do
          pass
          countLines [c]
          takeDocuments inner
          pure Token.newline
        else if c = '&' || c = '|' || c = ';' then twice c
        else if c = '(' || c = ')' then do
          pass
          pure (Token.operator [c])
        else do
          let w ← word inner isMark .bare
          match ← peek with
          | some d =>
            if d = '<' || d = '>' then
              match w with
              | [] => redirectSign none d
              | [.literal [n] false] =>
                if n.isAsciiDigit then redirectSign (some (n.val - 0x30)) d else pure (.word w)
              | _ => pure (.word w)
            else pure (.word w)
          | none => pure (.word w)
    return (token, passesOn)

/-- Reads a token, after line ends if those are passed over, and not an alias
if those are replaced. -/
def token (inner : Inner) (wanted : Wanted) : (fuel : Nat) → Read Token
  | 0 => return .ending
  | fuel + 1 => do
    let (found, passesOn) ← rawToken inner false
    match found with
    | .newline => if wanted.passesLines then token inner wanted fuel else return found
    | .word w =>
      match w with
      | [.literal t false] =>
        if wanted.keywords && Token.keywords.contains t then return .keyword t
        let s ← get
        if !(wanted.aliases || passesOn) || s.busy.contains t then return found
        match s.aliases.lookup t with
        | some meaning =>
          let passesOn := match meaning.getLast? with
            | some c => isGap c
            | none => false
          set { s with
            rest := meaning ++ s.rest
            openAliases := ⟨t, s.rest.length, passesOn⟩ :: s.openAliases }
          token inner wanted fuel
        | none => return found
      | _ => return found
    | _ => return found

/-- Reads a token. -/
def next (inner : Inner) (wanted : Wanted := {}) : Read Token := do
  let s ← get
  token inner wanted (s.rest.length + s.aliases.length + 2)

/-- Reads one given token. -/
def expect (inner : Inner) (wanted : Wanted) (expected : Token) : Read Unit := do
  let found ← next inner wanted
  let isIt := match expected with
    | .operator t => found.isOperator t
    | .keyword t => found.isKeyword t
    | _ => false
  if isIt then pure () else unexpected found (some expected)

/-! ## Simple commands -/

/-- Reads what a redirection leads to. -/
def redirect (inner : Inner) (descriptor : Nat) (sign : Text) : Read Redirect := do
  let target : Read Word := do
    match ← next inner with
    | .word w => return w
    | found => unexpected found
  if sign = text "<<" || sign = text "<<-" then
    match ← rawToken inner true with
    | (.word w, _) =>
      let number := (← get).nextDocument
      modify fun s => { s with
        nextDocument := number + 1
        awaited := s.awaited ++ [⟨number, w.bare, sign = text "<<-", w.hasQuotes⟩] }
      return .document descriptor number
    | (found, _) => unexpected found
  else if sign = text ">&" || sign = text "<&" then return .duplicate descriptor (← target)
  else
    let opening := if sign = text ">" then Opening.write
      else if sign = text ">|" then .overwrite
      else if sign = text ">>" then .append
      else if sign = text "<>" then .update
      else .read
    return .file descriptor opening (← target)

/-- Reads the redirections after a command. -/
def redirects (inner : Inner) : (fuel : Nat) → Read (List Redirect)
  | 0 => pure []
  | fuel + 1 => do
    match ← next inner .command with
    | .redirect descriptor sign =>
      let r ← redirect inner descriptor sign
      return r :: (← redirects inner fuel)
    | found => putBack found; return []

/-- The parts of a simple command. -/
structure Parts where
  assignments : List Word := []
  words : List Word := []
  redirects : List Redirect := []

/-- The word sets a variable. -/
def isAssignment : Word → Bool
  | .literal t false :: _ => (settingAt? t).isSome
  | _ => false

/-- Reads the rest of a simple command up to a token that is given back, or up
to the parenthesis after its only word. -/
def parts (inner : Inner) : (fuel : Nat) → Parts → Read (Parts × Bool)
  | 0, sofar => pure (sofar, false)
  | fuel + 1, sofar => do
    match ← next inner { aliases := sofar.words.isEmpty } with
    | .word w =>
      if sofar.words.isEmpty && isAssignment w then
        parts inner fuel { sofar with assignments := sofar.assignments ++ [w] }
      else parts inner fuel { sofar with words := sofar.words ++ [w] }
    | .redirect descriptor sign =>
      let r ← redirect inner descriptor sign
      parts inner fuel { sofar with redirects := sofar.redirects ++ [r] }
    | found =>
      if found.isOperator (text "(") && sofar.words.length = 1 && sofar.assignments.isEmpty
          && sofar.redirects.isEmpty then
        return (sofar, true)
      else
        putBack found
        return (sofar, false)

/-- Reads words up to another token, which is answered, too. -/
def wordsBefore (inner : Inner) : (fuel : Nat) → Read (List Word × Token)
  | 0 => return ([], .ending)
  | fuel + 1 => do
    match ← next inner with
    | .word w =>
      let (ws, stop) ← wordsBefore inner fuel
      return (w :: ws, stop)
    | found => return ([], found)

/-- Reads the patterns of a case, from a token that was read. -/
def patterns (inner : Inner) : (fuel : Nat) → Token → Read (List Word)
  | 0, found => unexpected found
  | fuel + 1, found => do
    let w : Word := match found with
      | .word w => w
      | .keyword t => [.literal t false]
      | _ => []
    let after ← next inner
    if after.isOperator (text "|") then
      return w :: (← patterns inner fuel (← next inner))
    else if after.isOperator (text ")") then return [w]
    else unexpected after (some (.operator (text ")")))

/-! ## Commands -/

/-- A list of commands ends before this token. -/
def endsList : Token → Bool
  | .operator t => t = text ")" || t = text ";;"
  | .keyword t =>
    ["do", "done", "elif", "else", "esac", "fi", "then", "\x7d"].any fun s => t = text s
  | .ending => true
  | _ => false

/-- The words that a loop without words of its own runs for. -/
def allParameters : Word := [.parameter (text "@") .value true]

/-- One command after others. -/
def afterwards : Option Script → Script → Script
  | none, s => s
  | some before, s => .sequence before s

mutual

/-- Reads commands up to a token that ends their list. With `mayBeEmpty` there
may be none. -/
def list (inner : Inner) : (fuel : Nat) → (mayBeEmpty : Bool) → Option Script → Read Script
  | 0, _, _ => unexpected .ending
  | fuel + 1, mayBeEmpty, before => do
    let found ← next inner .commandBelow
    putBack found
    let isOver := match found with
      | .ending => true
      | t => mayBeEmpty && endsList t
    if isOver then return before.getD .nothing
    let one ← chain inner fuel
    let after ← next inner
    if after.isOperator (text "&") then
      list inner fuel true (some (afterwards before (.background one)))
    else if after.isOperator (text ";") then list inner fuel true (some (afterwards before one))
    else
      putBack after
      match after with
      | .newline => list inner fuel true (some (afterwards before one))
      | _ => return afterwards before one

/-- Reads pipelines that are joined by the signs for "and" and "or". -/
def chain (inner : Inner) : (fuel : Nat) → Read Script
  | 0 => unexpected .ending
  | fuel + 1 => do
    chainAfter inner fuel (← pipeline inner fuel {})

/-- Reads what is joined to a pipeline. -/
def chainAfter (inner : Inner) : (fuel : Nat) → Script → Read Script
  | 0, _ => unexpected .ending
  | fuel + 1, before => do
    let found ← next inner
    if found.isOperator (text "&&") then
      chainAfter inner fuel (.both before (← pipeline inner fuel .commandBelow))
    else if found.isOperator (text "||") then
      chainAfter inner fuel (.either before (← pipeline inner fuel .commandBelow))
    else
      putBack found
      return before

/-- Reads commands that are joined by a pipe. -/
def pipeline (inner : Inner) : (fuel : Nat) → Wanted → Read Script
  | 0, _ => unexpected .ending
  | fuel + 1, wanted => do
    let found ← next inner wanted
    if found.isKeyword (text "!") then
      return .negate (← stages inner fuel .command)
    else
      putBack found
      stages inner fuel {}

/-- Reads the commands of a pipeline. -/
def stages (inner : Inner) : (fuel : Nat) → Wanted → Read Script
  | 0, _ => unexpected .ending
  | fuel + 1, wanted => do
    let first ← command inner fuel wanted
    let others ← moreStages inner fuel
    return if others.isEmpty then first else .pipeline (first :: others)

/-- Reads the later commands of a pipeline. -/
def moreStages (inner : Inner) : (fuel : Nat) → Read (List Script)
  | 0 => unexpected .ending
  | fuel + 1 => do
    let found ← next inner
    if found.isOperator (text "|") then
      let one ← command inner fuel .commandBelow
      return one :: (← moreStages inner fuel)
    else
      putBack found
      return []

/-- Reads the part of a conditional after its first word. -/
def branch (inner : Inner) : (fuel : Nat) → Read Script
  | 0 => unexpected .ending
  | fuel + 1 => do
    let test ← list inner fuel false none
    expect inner {} (.keyword (text "then"))
    let yes ← list inner fuel false none
    let found ← next inner
    if found.isKeyword (text "elif") then return .branch test yes (← branch inner fuel)
    let no ← if found.isKeyword (text "else") then list inner fuel false none
      else do
        putBack found
        pure .nothing
    expect inner {} (.keyword (text "fi"))
    return .branch test yes no

/-- Reads the body of a loop. -/
def body (inner : Inner) : (fuel : Nat) → Wanted → Read Script
  | 0, _ => unexpected .ending
  | fuel + 1, wanted => do
    expect inner wanted (.keyword (text "do"))
    let s ← list inner fuel false none
    expect inner {} (.keyword (text "done"))
    return s

/-- Reads the cases of a choice. -/
def cases (inner : Inner) : (fuel : Nat) → Read (List (List Word × Script))
  | 0 => unexpected .ending
  | fuel + 1 => do
    let found ← next inner { passesLines := true, keywords := true }
    if found.isKeyword (text "esac") then return []
    let first ← if found.isOperator (text "(") then next inner else pure found
    let ps ← patterns inner ((← rest).length + 2) first
    let s ← list inner fuel true none
    let after ← next inner { passesLines := true, keywords := true }
    if after.isKeyword (text "esac") then return [(ps, s)]
    else if after.isOperator (text ";;") then return (ps, s) :: (← cases inner fuel)
    else unexpected after (some (.operator (text ";;")))

/-- Reads a loop for fields, after its first word. -/
def eachLoop (inner : Inner) : (fuel : Nat) → (line : Nat) → Read Script
  | 0, _ => unexpected .ending
  | fuel + 1, line => do
    let found ← next inner
    match found with
    | .word [.literal name false] =>
      if !isName name then fail (text "Syntax error: Bad for loop variable")
      let after ← next inner .commandBelow
      if after.isKeyword (text "in") then
        let (words, stop) ← wordsBefore inner ((← rest).length + 2)
        match stop with
        | .newline => pure ()
        | _ => if stop.isOperator (text ";") then pure () else unexpected stop
        return .each line name words (← body inner fuel .commandBelow)
      else
        if !after.isOperator (text ";") then putBack after
        return .each line name [allParameters] (← body inner fuel .commandBelow)
    | _ => fail (text "Syntax error: Bad for loop variable")

/-- Reads one command. -/
def command (inner : Inner) : (fuel : Nat) → Wanted → Read Script
  | 0, _ => unexpected .ending
  | fuel + 1, wanted => do
    let line := (← get).line
    let redirected (s : Script) : Read Script := do
      let rs ← redirects inner ((← rest).length + 2)
      if rs.isEmpty then return s
      match s with
      | .subshell line s [] => return .subshell line s rs
      | s => return .redirected line s rs
    let found ← next inner wanted
    match found with
    | .word _ | .redirect _ _ => putBack found; simple inner fuel
    | .operator t =>
      if t = text "(" then
        let s ← list inner fuel false none
        expect inner {} (.operator (text ")"))
        redirected (.subshell line s [])
      else unexpected found
    | .keyword t =>
      if t = text "if" then redirected (← branch inner fuel)
      else if t = text "while" || t = text "until" then
        let test ← list inner fuel false none
        redirected (.loop (t = text "while") test (← body inner fuel {}))
      else if t = text "for" then redirected (← eachLoop inner fuel line)
      else if t = text "case" then
        match ← next inner with
        | .word w =>
          expect inner .commandBelow (.keyword (text "in"))
          redirected (.choose line w (← cases inner fuel))
        | other => unexpected other (some (.word []))
      else if t = text "\x7b" then
        let s ← list inner fuel false none
        expect inner {} (.keyword (text "\x7d"))
        redirected s
      else unexpected found
    | _ => unexpected found

/-- Reads a simple command, or the definition of a function. -/
def simple (inner : Inner) : (fuel : Nat) → Read Script
  | 0 => unexpected .ending
  | fuel + 1 => do
    let line := (← get).line
    let (ps, isFunction) ← parts inner ((← rest).length + 2) {}
    if isFunction then
      expect inner {} (.operator (text ")"))
      match ps.words with
      | [[.literal name false]] =>
        if !isName name || specialNames.contains name then
          fail (text "Syntax error: Bad function name")
        let line := (← get).line
        return .define line name (← command inner fuel .commandBelow)
      | _ => fail (text "Syntax error: Bad function name")
    else return .simple line ps.assignments ps.words ps.redirects

end

/-- Reads the commands up to the end of a line, if the text is not over. -/
def lineAfter (inner : Inner) : (fuel : Nat) → Option Script → Read (Option Script)
  | 0, _ => unexpected .ending
  | fuel + 1, before => do
    let found ← next inner .command
    match found with
    | .newline => return some (before.getD .nothing)
    | .ending => putBack found; return before
    | _ =>
      putBack found
      let one ← chain inner fuel
      let after ← next inner
      match after with
      | .ending => putBack after; return some (afterwards before one)
      | .newline => return some (afterwards before one)
      | _ =>
        if after.isOperator (text "&") then
          lineAfter inner fuel (some (afterwards before (.background one)))
        else if after.isOperator (text ";") then
          lineAfter inner fuel (some (afterwards before one))
        else unexpected after

/-- A bound on the steps of a reader. -/
def bound : Read Nat := do
  let s ← get
  return 16 * (s.rest.length + 2) * (1 + (s.aliases.map fun a => a.2.length).foldl (· + ·) 0) + 64

/-- The readers of scripts in words, for scripts that are nested so deep at most. -/
def innerOf : (depth : Nat) → Inner
  | 0 => { parenthesized := unexpected .ending, whole := fun _ => unexpected .ending }
  | depth + 1 =>
    let inner := innerOf depth
    { parenthesized := do
        let outer ← get
        set { outer with awaited := [], again := none }
        let s ← list inner (← bound) true none
        expect inner {} (.operator (text ")"))
        dropDocuments inner
        modify fun s => { s with awaited := outer.awaited, again := none }
        return s
      whole := fun t => within t 1 do
        let s ← list inner (← bound) true none
        dropDocuments inner
        return s }

/-- The word that a text writes, read as the text of a document. -/
def documentOf (t : Text) : Read Word :=
  within t 1 (word (innerOf (t.length + 1)) false .document)

/-- Reads the commands of a line, if the text is not over. -/
def line : Read (Option Script) := do
  modify fun s => { s with again := none, awaited := [] }
  let inner := innerOf ((← rest).length + 1)
  lineAfter inner (← bound) none

end Read

end Shell

end AgentWorkshop
