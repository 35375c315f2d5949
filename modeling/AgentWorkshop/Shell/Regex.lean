import AgentWorkshop.Shell.Pattern

/-!
# Regular expressions

The expressions of `grep`, `sed` and `expr`, in their basic and their extended
form. `Regex.ends` gives all places at which a match from some place can end;
`Regex.find?` gives the leftmost match, and of these the longest one.
-/

namespace AgentWorkshop

namespace Shell

/-- What an expression can ask of a place, without taking a byte. -/
inductive Anchor where
  | start
  | finish
  | lineStart
  | lineFinish
  | wordStart
  | wordEnd
  | wordEdge
  | noWordEdge
  /-- No word goes on before the place. -/
  | afterWord
  /-- No word goes on behind the place. -/
  | beforeWord
  deriving DecidableEq, Repr

/-- A regular expression. -/
inductive Regex where
  | empty
  /-- Any byte. -/
  | any
  /-- A byte of a set, or outside of it. -/
  | oneOf (negated : Bool) (members : List Member)
  | anchor (a : Anchor)
  /-- A part that is known by its number. -/
  | group (number : Nat) (body : Regex)
  /-- What a group matched, once more. -/
  | again (number : Nat)
  | sequence (first second : Regex)
  | choice (first second : Regex)
  /-- A part so often at least, and so often at most. -/
  | iterate (least : Nat) (most : Option Nat) (body : Regex)
  deriving Repr, Inhabited

/-- A place in a text, on the way of a match. -/
structure TextPoint where
  index : Nat
  before : Option CodePoint
  rest : Text
  /-- What the groups matched, the latest first. -/
  groups : List (Nat × Text)
  deriving DecidableEq, Repr

namespace Regex

/-! ## Matching -/

/-- A byte of a word. -/
def isWordPart (c : CodePoint) : Bool :=
  c.isAsciiLetter || c.isAsciiDigit || c = '_'

/-- A letter in the other case. -/
def otherCase (c : CodePoint) : CodePoint :=
  if c.isAsciiSmall then c - 0x20 else if c.isAsciiCapital then c + 0x20 else c

/-- The byte after a place is taken. -/
def TextPoint.advance (s : TextPoint) : Option (CodePoint × TextPoint) :=
  match s.rest with
  | [] => none
  | c :: rest => some (c, { s with index := s.index + 1, before := some c, rest })

/-- So many bytes are taken. -/
def TextPoint.skip (s : TextPoint) (n : Nat) : TextPoint :=
  if n = 0 then s
  else { s with index := s.index + n, before := (s.rest.take n).getLast?, rest := s.rest.drop n }

/-- The anchor holds at the place. -/
def Anchor.holds (s : TextPoint) (a : Anchor) : Bool :=
  let isBefore := s.before.any isWordPart
  let isAfter := s.rest.head?.any isWordPart
  match a with
  | .start => s.index = 0
  | .finish => s.rest.isEmpty
  | .lineStart => s.before.all fun c : CodePoint => c = '\n'
  | .lineFinish => s.rest.head?.all fun c : CodePoint => c = '\n'
  | .wordStart => !isBefore && isAfter
  | .wordEnd => isBefore && !isAfter
  | .wordEdge => isBefore != isAfter
  | .noWordEdge => isBefore == isAfter
  | .afterWord => !isBefore
  | .beforeWord => !isAfter

/-- The first of the places that are alike; `whole` tells the same place with
other groups apart. -/
def distinct (whole : Bool) (spots : List TextPoint) : List TextPoint :=
  spots.foldl (fun (found : List TextPoint) s =>
    if found.any fun t => t.index = s.index && (!whole || t.groups = s.groups) then found
    else s :: found) [] |>.reverse

/-- The places after a step was done from `least` to `most` times, the last ones first. -/
def repeated (whole : Bool) (step : TextPoint → List TextPoint) (least : Nat) (most : Option Nat) :
    (fuel : Nat) → (count : Nat) → (seen : List Nat) → List TextPoint → List TextPoint
  | 0, _, _, _ => []
  | fuel + 1, count, seen, frontier =>
    if frontier.isEmpty then []
    else
      let isEnough := decide (least ≤ count)
      let here := if isEnough then frontier else []
      if most = some count then here
      else
        let seen := if isEnough then frontier.map (·.index) ++ seen else seen
        let next := distinct whole (frontier.flatMap fun s =>
          (step s).filter fun t =>
            if isEnough then decide (s.index < t.index) && (whole || !seen.contains t.index) else true)
        repeated whole step least most fuel (count + 1) seen next ++ here

/-- The places at which a match can end that begins at a place. -/
def ends (whole ignoresCase : Bool) : Regex → TextPoint → List TextPoint
  | empty, s => [s]
  | any, s => (TextPoint.advance s).toList.map (·.2)
  | oneOf negated members, s =>
    match TextPoint.advance s with
    | none => []
    | some (c, next) =>
      let isIn := members.any fun m =>
        m.contains c || (ignoresCase && m.contains (otherCase c))
      if isIn != negated then [next] else []
  | anchor a, s => if Anchor.holds s a then [s] else []
  | group number body, s =>
    (ends whole ignoresCase body s).map fun t =>
      { t with groups :=
          (number, s.rest.take (t.index - s.index)) :: t.groups.filter fun g => g.1 ≠ number }
  | again number, s =>
    match s.groups.lookup number with
    | none => []
    | some t =>
      let there := s.rest.take t.length
      if there = t || (ignoresCase && Text.asciiLower there = Text.asciiLower t) then
        [TextPoint.skip s t.length]
      else []
  | sequence first second, s =>
    distinct whole ((ends whole ignoresCase first s).flatMap (ends whole ignoresCase second))
  | choice first second, s =>
    distinct whole (ends whole ignoresCase first s ++ ends whole ignoresCase second s)
  | iterate least most body, s =>
    (repeated whole (ends whole ignoresCase body) least most (s.rest.length + least + 2) 0 []
      [s]).mergeSort fun a b => b.index ≤ a.index

/-- The expression asks for what a group matched. -/
def hasAgain : Regex → Bool
  | again _ => true
  | group _ body => body.hasAgain
  | sequence first second => first.hasAgain || second.hasAgain
  | choice first second => first.hasAgain || second.hasAgain
  | iterate _ _ body => body.hasAgain
  | _ => false

/-- The expression with its anchors at every line. -/
def atLines : Regex → Regex
  | anchor .start => anchor .lineStart
  | anchor .finish => anchor .lineFinish
  | group number body => group number body.atLines
  | sequence first second => sequence first.atLines second.atLines
  | choice first second => choice first.atLines second.atLines
  | iterate least most body => iterate least most body.atLines
  | r => r

/-- The greatest number of a group. -/
def groupCount : Regex → Nat
  | group number body => max number body.groupCount
  | sequence first second => max first.groupCount second.groupCount
  | choice first second => max first.groupCount second.groupCount
  | iterate _ _ body => body.groupCount
  | _ => 0

/-- What was found: a part of a text and what the groups matched. -/
structure Found where
  start : Nat
  part : Text
  groups : List (Nat × Text)

/-- The longest match at a place. -/
def matchAt? (r : Regex) (ignoresCase : Bool) (s : TextPoint) : Option Found :=
  let best := (r.ends r.hasAgain ignoresCase s).foldl (fun (best : Option TextPoint) t =>
    match best with
    | some b => if b.index < t.index then some t else best
    | none => some t) none
  best.map fun t => { start := s.index, part := s.rest.take (t.index - s.index), groups := t.groups }

/-- The first place from some place on at which there is a match. -/
def search (r : Regex) (ignoresCase : Bool) : (fuel : Nat) → TextPoint → Option Found
  | 0, _ => none
  | fuel + 1, s =>
    match r.matchAt? ignoresCase s with
    | some found => some found
    | none => (TextPoint.advance s).bind fun (_, next) => r.search ignoresCase fuel next

/-- The leftmost match from an offset on. -/
def find? (r : Regex) (ignoresCase : Bool) (t : Text) (offset : Nat := 0) : Option Found :=
  let start : TextPoint := { index := 0, before := none, rest := t, groups := [] }
  r.search ignoresCase (t.length + 1) (TextPoint.skip start offset)

/-! ## Reading -/

/-- What is left of an expression, how many groups it has so far, and which of
them are closed. -/
structure Reading where
  rest : Text
  groups : Nat := 0
  closed : List Nat := []
  /-- Remarks on what may not be meant. -/
  warnings : List Text := []

/-- How expressions are written. -/
structure Grammar where
  /-- Operators stand without a backslash. -/
  isExtended : Bool
  /-- Operators need something to work on, and braces hold counts. -/
  isStrict : Bool := false

/-- A step of the reader. -/
abbrev Reader := StateT Reading (Except Text)

/-- The members of a set up to its closing bracket. The first sign closes nothing. -/
def members : (fuel : Nat) → (isFirst : Bool) → Text → Except Text (List Member × Text)
  | 0, _, _ => .error (text "Unmatched [, [^, [:, [., or [=")
  | _, true, [] => .error (text "Invalid regular expression")
  | _, false, [] => .error (text "Unmatched [, [^, [:, [., or [=")
  | fuel + 1, isFirst, c :: rest =>
    let more (m : Member) (rest : Text) : Except Text (List Member × Text) :=
      (members fuel false rest).map fun (ms, after) => (m :: ms, after)
    /- A sign in brackets of its own. -/
    let named (t : Text) : Option (CodePoint × Text) := match t with
      | a :: b :: d :: e :: f :: after =>
        if a = '[' && (b = '.' || b = '=') && e = b && f = ']' then some (d, after) else none
      | _ => none
    let single (c : CodePoint) (rest : Text) : Except Text (List Member × Text) :=
      match rest with
      | dash :: d :: after =>
        if dash = '-' && d ≠ ']' then
          let (d, after) := (named (d :: after)).getD (d, after)
          if d.val < c.val then .error (text "Invalid range end") else more (.range c d) after
        else more (.range c c) rest
      | _ => more (.range c c) rest
    if c = ']' && !isFirst then .ok ([], rest)
    else if c = '[' && rest.head? = some (':' : CodePoint) then
      match ByteClass.named? (rest.drop 1) with
      | some (k, after) => more (.ofClass k) after
      | none => .error (text "Invalid character class name")
    else
      match named (c :: rest) with
      | some (c, after) => single c after
      | none => single c rest

/-- Members in colons, which are meant as the name of a class. -/
def isMistaken (ms : List Member) : Bool :=
  let isColon (m : Option Member) : Bool := match m with
    | some (.range c _) => c = ':'
    | _ => false
  let isSingle (m : Member) : Bool := match m with
    | .range c d => c = d
    | _ => false
  2 < ms.length && isColon ms.head? && isColon ms.getLast? && ms.all isSingle

/-- What is wrong with a class whose name stands in single brackets. -/
def mistakenClass : Text :=
  text "character class syntax is [[:space:]], not [:space:]"

/-- A natural number at the start of a text, if there is one. -/
def countAt (t : Text) : Option Nat × Text :=
  let digits := t.takeWhile CodePoint.isAsciiDigit
  (if digits.isEmpty then none
    else some (digits.foldl (fun n c => 10 * n + (c.val - 0x30)) 0), t.drop digits.length)

/-- The greatest count of a repetition. -/
def countLimit : Nat := 32767

/-- The counts of a repetition after its opening brace, and what follows them. -/
def counts? (close t : Text) : Option (Nat × Option Nat × Text) :=
  let (least, rest) := countAt t
  match close.isPrefixOf? rest, least with
  | some after, some n => some (n, some n, after)
  | _, _ =>
    match rest with
    | comma :: rest =>
      if comma ≠ ',' then none
      else
        let (most, rest) := countAt rest
        (close.isPrefixOf? rest).map fun after => (least.getD 0, most, after)
    | [] => none

/-- The bytes of words, and the blanks. -/
def letterSet? (c : CodePoint) : Option Regex :=
  let word : List Member := [.ofClass .alnum, .range '_' '_']
  if c = 'w' then some (oneOf false word)
  else if c = 'W' then some (oneOf true word)
  else if c = 's' then some (oneOf false [.ofClass .space])
  else if c = 'S' then some (oneOf true [.ofClass .space])
  else none

/-- The anchor that an escaped sign stands for. -/
def anchor? (c : CodePoint) : Option Anchor :=
  if c = '<' then some .wordStart
  else if c = '>' then some .wordEnd
  else if c = 'b' then some .wordEdge
  else if c = 'B' then some .noWordEdge
  else if c.val = 0x60 then some .start
  else if c.val = 0x27 then some .finish
  else none

/-- A sign that stands for itself. -/
def exactly (c : CodePoint) : Regex := oneOf false [.range c c]

/-- Takes a text, if it is next. -/
def takes (t : Text) : Reader Bool := do
  let s ← get
  match t.isPrefixOf? s.rest with
  | some rest => set { s with rest }; return true
  | none => return false

/-- Whether a text is next. -/
def isNext (t : Text) : Reader Bool := do
  return t.isPrefixOf (← get).rest

/-- The sign of an operator, which is escaped in basic expressions. -/
def Grammar.sign (g : Grammar) (c : Char) : Text :=
  if g.isExtended then [CodePoint.ofChar c] else ['\\', CodePoint.ofChar c]

/-- Whether a count or a star is next. -/
def isRepeated (g : Grammar) : Reader Bool := do
  return (← isNext (text "*")) || (← isNext (g.sign '\x7b'))

/-- Goes on after an operator, after which there may not be another one. -/
def another (g : Grammar) : Reader Unit := do
  if g.isStrict && !g.isExtended then
    if ← isRepeated g then throw (text "Invalid preceding regular expression")

/-- Repeats a part as the operators after it say. -/
def repetitions (g : Grammar) : (fuel : Nat) → Regex → Reader Regex
  | 0, r => return r
  | fuel + 1, r => do
    if ← takes (text "*") then another g; repetitions g fuel (iterate 0 none r)
    else if ← takes (g.sign '+') then another g; repetitions g fuel (iterate 1 none r)
    else if ← takes (g.sign '?') then another g; repetitions g fuel (iterate 0 (some 1) r)
    else
      let s ← get
      match (g.sign '\x7b').isPrefixOf? s.rest with
      | none => return r
      | some inside =>
        let close := g.sign '\x7d'
        match counts? close inside with
        | some (least, most, after) =>
          if most.any fun most => decide (most < least) then
            throw (text "Invalid content of \\\x7b\\\x7d")
          if countLimit < max least (most.getD 0) then throw (text "Regular expression too big")
          set { s with rest := after }
          another g
          repetitions g fuel (iterate least most r)
        | none =>
          if g.isExtended && !g.isStrict then return r
          else if (List.range inside.length).any fun i => close.isPrefixOf (inside.drop i) then
            throw (text "Invalid content of \\\x7b\\\x7d")
          else throw (text "Unmatched \\\x7b")

mutual

/-- Reads alternatives. -/
def alternatives (g : Grammar) : (fuel : Nat) → (depth : Nat) → Reader Regex
  | 0, _ => throw (text "Regular expression too big")
  | fuel + 1, depth => do
    let first ← parts g fuel depth true
    if ← takes (g.sign '|') then
      return choice first (← alternatives g fuel depth)
    else return first

/-- Reads parts that follow each other. -/
def parts (g : Grammar) : (fuel : Nat) → (depth : Nat) → (isFirst : Bool) → Reader Regex
  | 0, _, _ => throw (text "Regular expression too big")
  | fuel + 1, depth, isFirst => do
    let s ← get
    if s.rest.isEmpty || (← isNext (g.sign '|')) then return empty
    if ← isNext (g.sign ')') then
      if 0 < depth then return empty
      if !g.isExtended || g.isStrict then throw (text "Unmatched ) or \\)")
    let one ← part g fuel depth isFirst
    match one with
    | anchor .start => return sequence one (← parts g fuel depth (isFirst && (!g.isExtended || g.isStrict)))
    | _ =>
      let one ← repetitions g fuel one
      return sequence one (← parts g fuel depth false)

/-- Reads one part. -/
def part (g : Grammar) : (fuel : Nat) → (depth : Nat) → (isFirst : Bool) → Reader Regex
  | 0, _, _ => throw (text "Regular expression too big")
  | fuel + 1, depth, isFirst => do
    if ← takes (g.sign '(') then
      let number := (← get).groups + 1
      modify fun s => { s with groups := number }
      let body ← alternatives g fuel (depth + 1)
      if !(← takes (g.sign ')')) then throw (text "Unmatched ( or \\(")
      modify fun s => { s with closed := number :: s.closed }
      return group number body
    let s ← get
    if isFirst && g.isStrict && g.isExtended then
      if (← isRepeated g) || (← isNext (text "+")) || (← isNext (text "?")) then
        throw (text "Invalid preceding regular expression")
    match s.rest with
    | [] => return empty
    | c :: rest =>
      let goOn (r : Regex) (rest : Text) : Reader Regex := do
        modify fun s => { s with rest }
        return r
      if c = '.' then goOn any rest
      else if c = '[' then
        let negated : Bool := rest.head? = some ('^' : CodePoint)
        let inside := if negated then rest.drop 1 else rest
        match members (inside.length + 1) true inside with
        | .ok (ms, after) =>
          if isMistaken ms then throw mistakenClass
          goOn (oneOf negated ms) after
        | .error e => throw e
      else if c = '^' && (g.isExtended || isFirst) then goOn (anchor .start) rest
      else if c = '$' &&
          (g.isExtended || rest.isEmpty || (text "\\)").isPrefixOf rest || (text "\\|").isPrefixOf rest)
          then goOn (anchor .finish) rest
      else if c = '*' && isFirst && g.isExtended then
        modify fun s => { s with
          warnings := s.warnings ++ [text "* at start of expression"] }
        goOn empty rest
      else if c = '\\' then
        match rest with
        | [] => throw (text "Trailing backslash")
        | d :: after =>
          if d.isAsciiDigit && d ≠ '0' then
            let n := d.val - 0x30
            if s.closed.contains n then goOn (again n) after else throw (text "Invalid back reference")
          else
            match letterSet? d, anchor? d with
            | some r, _ => goOn r after
            | _, some a => goOn (anchor a) after
            | none, none =>
              if d = '\x7b' && !g.isExtended then throw (text "Invalid preceding regular expression")
              if d.isAsciiLetter || d.isAsciiDigit then
                modify fun s => { s with warnings := s.warnings ++ [text "stray \\ before " ++ [d]] }
              goOn (exactly d) after
      else goOn (exactly c) rest

end

/-- The expression that a text writes, with remarks on it, or what is wrong with it. -/
def ofText (g : Grammar) (t : Text) : Except Text (Regex × List Text) :=
  match (alternatives g (4 * t.length + 8) 0).run { rest := t } with
  | .error e => .error e
  | .ok (r, s) =>
    if s.rest.isEmpty then .ok (r, s.warnings) else .error (text "Unmatched ) or \\)")

/-- The expression that matches a text only. -/
def ofWord (t : Text) : Regex :=
  t.foldr (fun c r => sequence (exactly c) r) empty

end Regex

end Shell

end AgentWorkshop
