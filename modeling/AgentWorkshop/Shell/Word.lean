import AgentWorkshop.Shell.Source

/-!
# Reading words

A word is a run of pieces. What ends it, and what its signs mean, hangs on the
`Place` where it stands; `Read.pieces` reads the pieces up to the end of a place.
Words may hold whole scripts, whose readers are given by an `Inner`.
-/

namespace AgentWorkshop

namespace Shell

/-- The readers of the scripts inside of words. -/
structure Inner where
  /-- Reads a script and the parenthesis that closes it. -/
  parenthesized : Read Script
  /-- Reads the whole of a text. -/
  whole : Text → Read Script

/-- Where the pieces of a word stand. -/
inductive Place where
  /-- Between blanks. -/
  | bare
  /-- In the braces of a parameter. -/
  | braces (inDocument : Bool)
  /-- Between double quotes, which may be in braces themselves. -/
  | quotes (inBraces inDocument : Bool)
  /-- In the braces of a quoted parameter. -/
  | quotedBraces (inDocument : Bool)
  /-- In an arithmetic expression, where so many parentheses are open. -/
  | arithmetic (deep : Nat) (inDocument : Bool)
  /-- In a document of the script. -/
  | document
  deriving DecidableEq, Repr

namespace Place

/-- The place is quoted as a whole. -/
def isQuoted : Place → Bool
  | bare | braces _ => false
  | _ => true

/-- What is expanded in the place is quoted. Quotes in a document's braces quote no
more than the text that is written there. -/
def quotesExpansions : Place → Bool
  | quotes _ inDocument => !inDocument
  | place => place.isQuoted

/-- What an escaped sign stands for. -/
def escaped (place : Place) (c : CodePoint) : Text :=
  let loses : Bool := !place.isQuoted || (text "\\`$").contains c ||
    (c = '"' && place ≠ document) ||
    (c = '}' && match place with
      | .quotes inBraces _ => inBraces
      | .quotedBraces _ => true
      | _ => false)
  if loses then [c] else ['\\', c]

/-- A sign without a meaning of its own in any place. -/
def isOrdinary (place : Place) (c : CodePoint) : Bool :=
  !(text "\\'\"$`(\x7d)").contains c && (place ≠ bare || !endsWord c)

/-- The place is a document of the script, or in one. -/
def isInDocument : Place → Bool
  | document => true
  | braces inDocument | quotedBraces inDocument | quotes _ inDocument
  | arithmetic _ inDocument => inDocument
  | bare => false

/-- The place of the word in the braces of a parameter that stands here. -/
def inside (isPattern : Bool) (place : Place) : Place :=
  let inDocument := place.isInDocument
  if isPattern || !place.isQuoted then braces inDocument else quotedBraces inDocument

/-- The fault of a text that ends in this place, if it may not. -/
def fault? : Place → Option Text
  | bare | document => none
  | braces _ | quotedBraces true | quotes _ true => some (text "Missing '\x7d'")
  | quotes _ false | quotedBraces false => some (text "Unterminated quoted string")
  | arithmetic _ _ => some (text "Missing '))'")

end Place

/-- What stands after the name of a parameter in braces. -/
inductive UseSign where
  /-- The closing brace. -/
  | closed
  /-- A use for the word that follows. -/
  | open (isPattern : Bool) (use : Word → Use)

namespace Read

/-- Reads what stands after the name of a parameter in braces. -/
def useSign : Read UseSign := do
  let substituting (orEmpty : Bool) (c : CodePoint) : Option (Word → Use) :=
    if c = '-' then some (.substitute orEmpty)
    else if c = '+' then some (.alternative orEmpty)
    else if c = '?' then some (.demand orEmpty)
    else if c = '=' then some (.assign orEmpty)
    else none
  let unknown := UseSign.open false fun _ => .unknown
  match ← peekJoined with
  | none => return unknown
  | some c =>
    pass
    if c = '}' then return .closed
    else if c = '%' || c = '#' then
      let longest := (← peekJoined) = some c
      if longest then pass
      return .open true (if c = '#' then .dropStart longest else .dropEnd longest)
    else if c = ':' then
      match ← peekJoined with
      | none => return unknown
      | some d =>
        pass
        if d = '}' then return .open false fun _ => .value
        else return .open false ((substituting true d).getD fun _ => .unknown)
    else return .open false ((substituting false c).getD fun _ => .unknown)

/-- Reads the name of a parameter in braces and the sign of its use. -/
def bracedName : Read (Text × UseSign) := do
  let fuel := (← rest).length + 1
  let unknown : Text × UseSign := ([], .open false fun _ => .unknown)
  let nameFrom (c : CodePoint) : Read Text :=
    takeJoined (if c.isAsciiDigit then CodePoint.isAsciiDigit else isNamePart) fuel
  match ← peekJoined with
  | none => return unknown
  | some c =>
    if isNamePart c then
      let name ← nameFrom c
      return (name, ← useSign)
    else if c = '}' then return unknown
    else
      pass
      match ← peekJoined with
      | none => return unknown
      | some d =>
        if c ≠ '#' then
          if isSpecialName c then return ([c], ← useSign) else return unknown
        else if isNamePart d then
          let name ← nameFrom d
          let isWhole := (← peekJoined) = some ('}' : CodePoint)
          return (name, .open false fun _ => if isWhole then .length else .unknown)
        else
          let (after, _) := joined ((← rest).drop 1) 0
          if d = '}' || after.head? ≠ some ('}' : CodePoint) then return ([c], ← useSign)
          else
            pass
            return ([d], .open false fun _ => if isSpecialName d then .length else .unknown)

/-- Reads the text up to a backquote. In quotes, an escaped quote stands for itself. -/
def backquoted (inQuotes : Bool) : (fuel : Nat) → Read Text
  | 0 => fail (text "EOF in backquote substitution")
  | fuel + 1 => do
    match ← peekJoined with
    | none => fail (text "EOF in backquote substitution")
    | some c =>
      pass
      countLines [c]
      if c = backquote then return []
      else if c = '\\' then
        match ← peek with
        | none => fail (text "EOF in backquote substitution")
        | some d =>
          pass
          let isEscape := d = backquote || d = '\\' || d = '$' || (inQuotes && d = '"')
          return (if isEscape then [d] else [c, d]) ++ (← backquoted inQuotes fuel)
      else return c :: (← backquoted inQuotes fuel)

/-- Reads the text up to an apostrophe. -/
def untilApostrophe (place : Place) : Read Text := do
  let taken ← takeRun fun c => c ≠ apostrophe
  match ← peek with
  | some _ => pass; return taken
  | none => fail (((Place.quotes true place.isInDocument).fault?).getD [])

mutual

/-- Reads the pieces up to the end of their place. In a `mark`, which ends a
document, parameters and backquotes mean nothing. -/
def pieces (inner : Inner) (isMark : Bool) : (fuel : Nat) → Place → Read Word
  | 0, _ => fail (text "Unterminated quoted string")
  | fuel + 1, place => do
    let q := place.isQuoted
    let andMore (w : Word) : Read Word := do
      return w ++ (← pieces inner isMark fuel place)
    match ← peekJoined with
    | none =>
      match place.fault? with
      | some message => fail message
      | none => return []
    | some c =>
      if place = .bare && endsWord c then return []
      else if c = '\\' then
        pass
        match ← peek with
        | none => andMore [.literal [c] true]
        | some d => pass; andMore [.literal (place.escaped d) true]
      else if c = apostrophe && !q then
        pass
        andMore [.literal (← untilApostrophe place) true]
      else if c = '"' then
        match place with
        | .bare | .braces _ =>
          pass
          let inDocument := place = .braces true
          let w ← pieces inner isMark fuel (.quotes (place ≠ .bare) inDocument)
          andMore (match w with
            | [.parameter name .value _] => if name = text "@" then w else .literal [] true :: w
            | _ => .literal [] true :: w)
        | .quotes _ _ => pass; return []
        | .quotedBraces inDocument =>
          pass
          andMore (← pieces inner isMark fuel (.quotes true inDocument))
        | _ => pass; andMore [.literal [c] q]
      else if c = backquote && !isMark then
        pass
        let t ← backquoted q ((← rest).length + 1)
        andMore [.output (← inner.whole t) place.quotesExpansions]
      else if c = '$' && !isMark then
        pass
        andMore [← afterDollar inner fuel place]
      else
        match place with
        | .braces _ | .quotedBraces _ =>
          if c = '}' then
            pass
            return []
        | .arithmetic deep inDocument =>
          if c = '(' then
            pass
            return .literal [c] q :: (← pieces inner isMark fuel (.arithmetic (deep + 1) inDocument))
          if c = ')' then
            pass
            if deep ≠ 0 then
              return .literal [c] q :: (← pieces inner isMark fuel (.arithmetic (deep - 1) inDocument))
            if (← peekJoined) = some c then
              pass
              return []
            return ← andMore [.literal [c] q]
        | _ => pure ()
        let run ← takeRun place.isOrdinary
        if run.isEmpty then
          pass
          andMore [.literal [c] q]
        else andMore [.literal run q]

/-- Reads the piece after a dollar sign. -/
def afterDollar (inner : Inner) : (fuel : Nat) → Place → Read Piece
  | 0, _ => fail (text "Unterminated quoted string")
  | fuel + 1, place => do
    let q := place.quotesExpansions
    match ← peekJoined with
    | none => return .literal (text "$") place.isQuoted
    | some c =>
      if isNameStart c then
        return .parameter (← takeJoined isNamePart ((← rest).length + 1)) .value q
      else if isSpecialName c then
        pass
        return .parameter [c] .value q
      else if c = '{' then
        pass
        match ← bracedName with
        | (name, .closed) => return .parameter name .value q
        | (name, .open isPattern use) =>
          return .parameter name (use (← pieces inner false fuel (place.inside isPattern))) q
      else if c = '(' then
        pass
        if (← peekJoined) = some c then
          pass
          let inDocument := place.isInDocument
          return .arithmetic (← pieces inner false fuel (.arithmetic 0 inDocument)) q
        else return .output (← inner.parenthesized) q
      else return .literal (text "$") place.isQuoted

end

/-- Reads the word of a place that starts here. -/
def word (inner : Inner) (isMark : Bool) (place : Place) : Read Word := do
  return (← pieces inner isMark (4 * (← rest).length + 8) place).join

end Read

end Shell

end AgentWorkshop
