import AgentWorkshop.Shell.Arithmetic
import AgentWorkshop.Shell.Pattern
import AgentWorkshop.Shell.Stream

/-!
# Expanding words

A word is expanded piece by piece into segments, these are split into fields,
and a field that is a file pattern becomes the paths that match it.
-/

namespace AgentWorkshop

namespace Shell

/-- A sign of an expanded word. -/
inductive Sign where
  | byte (c : CodePoint) (quoted : Bool)
  /-- Here a quotation begins, be it empty. -/
  | mark
  /-- Here a positional parameter ends. -/
  | gap
  deriving DecidableEq, Repr

/-- How a segment is split. -/
inductive Splitting where
  | never
  /-- At separators. -/
  | atSeparators
  /-- At the ends of positional parameters. -/
  | atGaps
  deriving DecidableEq, Repr

/-- A part of an expanded word. -/
structure Segment where
  splitting : Splitting
  signs : List Sign
  deriving DecidableEq, Repr

namespace Sign

/-- The signs of a text. -/
def ofText (quoted : Bool) (t : Text) : List Sign :=
  t.map fun c => .byte c quoted

/-- The bytes of signs. -/
def toText (signs : List Sign) : Text :=
  signs.filterMap fun
    | .byte c _ => some c
    | _ => none

/-- The bytes of signs with whether they are quoted. -/
def toMarked (signs : List Sign) : Marked :=
  signs.filterMap fun
    | .byte c quoted => some (c, quoted)
    | _ => none

end Sign

/-! ## Splitting -/

/-- The separators that words are split at unless others are set. -/
def standardSeparators : Text := text " \t\n"

/-- The state of splitting. -/
structure Fields where
  /-- The fields that are done, the last one first. -/
  done : List (List Sign) := []
  /-- The current field, its last sign first. -/
  current : List Sign := []
  /-- The sign before was a blank separator that ended a field. -/
  afterBlank : Bool := false
  /-- How many fields may still be split off. -/
  left : Option Nat
  /-- The length from which on the current field is dropped at the end. -/
  cut : Option Nat := none

namespace Fields

/-- Adds a sign of a segment that is split. -/
def add (separators : Text) (atGaps afterGaps : Bool) (f : Fields) (sign : Sign) : Fields :=
  let (isSeparator, isBlank) := match sign with
    | .gap => (true, true)
    | .byte c _ =>
      (!atGaps && separators.contains c,
        !atGaps && separators.contains c && standardSeparators.contains c)
    | .mark => (false, false)
  if f.left = some 0 then
    let here := f.current.length
    let f := { f with current := sign :: f.current }
    if isBlank then { f with cut := f.cut <|> some here }
    else { f with cut := if isSeparator && f.afterBlank then f.cut else none, afterBlank := false }
  else if f.afterBlank && isSeparator then
    if isBlank then { f with current := [] } else { f with current := [], afterBlank := false }
  else if isSeparator then
    let afterBlank := if afterGaps || atGaps then f.afterBlank else isBlank
    if f.current.isEmpty && afterBlank then { f with afterBlank := false }
    else
      match f.left with
      | some 1 =>
        { f with
          left := some 0, afterBlank, cut := some f.current.length, current := sign :: f.current }
      | left =>
        { f with
          done := f.current.reverse :: f.done, current := [], afterBlank,
          left := left.map (· - 1) }
  else { f with current := sign :: f.current, afterBlank := false }

/-- Adds segments. The answer tells, too, whether the last one that is split is
split at the ends of parameters. -/
def addAll (separators : Text) (f : Fields) (afterGaps : Bool) : List Segment → Fields × Bool
  | [] => (f, afterGaps)
  | s :: rest =>
    match s.splitting with
    | .never => ({ f with current := s.signs.reverse ++ f.current }).addAll separators afterGaps rest
    | splitting =>
      let atGaps := splitting = .atGaps
      let start := { f with afterBlank := false }
      (s.signs.foldl (add separators atGaps afterGaps) start).addAll separators atGaps rest

/-- The fields of segments, of which there may be a greatest number. -/
def ofSegments (separators : Text) (limit : Option Nat) (segments : List Segment) :
    List (List Sign) :=
  let (f, endsAtGaps) := ({ left := limit } : Fields).addAll separators false segments
  let last := match f.cut with
    | some n => if endsAtGaps then f.current.reverse else f.current.reverse.take n
    | none => f.current.reverse
  f.done.reverse ++ if last.isEmpty && !endsAtGaps then [] else [last]

end Fields

/-! ## File patterns -/

/-- The parts of a pattern between slashes. -/
def componentsOf (m : Marked) : List Marked :=
  match m with
  | [] => [[]]
  | (c, quoted) :: rest =>
    let others := componentsOf rest
    if c = '/' then [] :: others
    else
      match others with
      | first :: more => ((c, quoted) :: first) :: more
      | [] => [[(c, quoted)]]

/-- The text of a part that matches only itself. -/
def plainOf : Marked → Text
  | [] => []
  | [(c, _)] => [c]
  | (c, quoted) :: (d, other) :: rest =>
    if c = '\\' && !quoted then d :: plainOf rest else c :: plainOf ((d, other) :: rest)

/-- The paths that match the parts of a pattern, after what was matched before. -/
def matchingPaths (m : Machine) (before : Text) : List Marked → List Text
  | [] => []
  | part :: rest =>
    if part.isWild then
      let directory := if before.isEmpty then text "." else before
      match m.resolveFrom m.process.directory true directory with
      | .ok (.taken address .directory) =>
        let startsWithDot : Bool := (plainOf part).head? = some ('.' : CodePoint)
        let names := (text "." :: text ".." :: m.namesIn address).filter fun name =>
          (startsWithDot || name.head? ≠ some ('.' : CodePoint)) && part.pattern.accepts name
        if rest.isEmpty then names.map (before ++ ·)
        else names.flatMap fun name => matchingPaths m (before ++ name ++ text "/") rest
      | _ => []
    else
      let path := before ++ plainOf part
      if rest.isEmpty then
        match before, m.resolveFrom m.process.directory false path with
        | _ :: _, .ok (.taken _ _) => [path]
        | _, _ => []
      else matchingPaths m (path ++ text "/") rest

/-- What a field becomes: the paths that match it, if there are any. -/
def pathsOrText (m : Machine) (field : List Sign) : List Text :=
  let marked := Sign.toMarked field
  let parts := componentsOf marked
  if m.process.options.contains ('f' : CodePoint) || !parts.any Marked.isWild then
    [marked.toText]
  else
    match (matchingPaths m [] parts).mergeSort Text.precedes with
    | [] => [marked.toText]
    | paths => paths

/-! ## Expanding -/

/-- What is expanded in a word, and how. -/
structure Mode where
  /-- The word becomes fields. -/
  splits : Bool := false
  /-- A tilde at its start is a home directory. -/
  hasTilde : Bool := true
  /-- So is a tilde after the first equals sign and after colons. -/
  isSetting : Bool := false
  /-- The equals sign was met. -/
  isAfterEquals : Bool := false
  /-- The word stands in for a parameter. -/
  isSubstitute : Bool := false

/-- What the parameters of a script stand for. -/
inductive Value where
  | text (t : Text)
  /-- The positional parameters, each one for itself or joined. -/
  | all (each : Bool) (ts : List Text)

/-- The home directories of users. -/
def homes : List (Text × Text) :=
  [("root", "/root"), ("daemon", "/usr/sbin"), ("bin", "/bin"), ("sys", "/dev"),
    ("sync", "/bin"), ("games", "/usr/games"), ("man", "/var/cache/man"),
    ("lp", "/var/spool/lpd"), ("mail", "/var/mail"), ("news", "/var/spool/news"),
    ("uucp", "/var/spool/uucp"), ("proxy", "/bin"), ("www-data", "/var/www"),
    ("backup", "/var/backups"), ("list", "/var/list"), ("irc", "/run/ircd"),
    ("_apt", "/nonexistent"), ("nobody", "/nonexistent")].map fun (u, h) => (text u, text h)

/-- The letters of the options in the order in which they are shown. -/
def optionLetters : Text := text "pubaCEVvxsnmiIfe"

namespace Exec

/-- What a parameter stands for, if anything. -/
def parameter? (name : Text) : Exec (Option Value) := do
  let p ← process
  let ofNat (n : Nat) : Option Value := some (.text (Text.ofNat n))
  match name with
  | [c] =>
    if c = '@' || c = '*' then return some (.all (c = '@') p.parameters)
    if c = '#' then return ofNat p.parameters.length
    if c = '?' then return ofNat p.status
    if c = '$' then return ofNat p.shellNumber
    if c = '!' then return p.latestJob.bind ofNat
    if c = '-' then return some (.text (optionLetters.filter p.options.contains))
  | _ => pure ()
  match name with
  | c :: _ =>
    if c.isAsciiDigit then
      let n : Nat := name.foldl (fun n c => 10 * n + (c.val - 0x30)) 0
      if n = 0 then return some (.text p.name)
      else return (p.parameters[n - 1]?).map .text
    else return (← lookup? name).map .text
  | [] => return none

/-- The separators, if they are set. -/
def separators? : Exec (Option Text) := lookup? (text "IFS")

/-- The signs of positional parameters with a sign between each two. -/
def joinedSigns (quoted : Bool) (between : List Sign) : List Text → List Sign
  | [] => []
  | [t] => Sign.ofText quoted t
  | t :: rest => Sign.ofText quoted t ++ between ++ joinedSigns quoted between rest

/-- The segments of a value. -/
def segmentsOf (mode : Mode) (quoted : Bool) : Value → Exec (List Segment)
  | .text t =>
    return [⟨if quoted then .never else .atSeparators, Sign.ofText quoted t⟩]
  | .all each ts => do
    let separators ← separators?
    let firstSeparator : List Sign := match separators with
      | some (c :: _) => [.byte c quoted]
      | some [] => []
      | none => [.byte ' ' quoted]
    if quoted then
      if each && mode.splits then
        return if ts.isEmpty then [] else [⟨.atGaps, joinedSigns true [.gap] ts⟩]
      else return [⟨.never, joinedSigns true firstSeparator ts⟩]
    else
      let between : List Sign := if !mode.splits then firstSeparator
        else match separators with
          | some _ => [.gap]
          | none => [.byte ' ' false]
      return [⟨.atSeparators, joinedSigns false between ts⟩]

/-- The home directory that a name after a tilde stands for. -/
def home? (name : Text) : Exec (Option Text) := do
  if name.isEmpty then lookup? (text "HOME") else return homes.lookup name

/-- The segments of unquoted text. A tilde that could go on in the next piece
stands for itself. -/
def literalSegments (mode : Mode) (isLast : Bool) : (fuel : Nat) → (mayBeHome : Bool) → Text →
    Exec (List Sign × Bool)
  | 0, _, t => return (Sign.ofText false t, mode.isAfterEquals)
  | fuel + 1, mayBeHome, t => do
    let ends (c : CodePoint) : Bool := c = '/' || (mode.isSetting && c = ':')
    match t with
    | [] => return ([], mode.isAfterEquals)
    | c :: rest =>
      if c = '~' && mayBeHome then
        let name := rest.takeWhile fun c => !ends c
        let after := rest.dropWhile fun c => !ends c
        if !after.isEmpty || isLast then
          if let some home ← home? name then
            let (others, isAfterEquals) ← literalSegments mode isLast fuel false after
            return (Sign.ofText true home ++ others, isAfterEquals)
      let meets := mode.isSetting && (if mode.isAfterEquals then c = ':' else c = '=')
      let mode := { mode with isAfterEquals := mode.isAfterEquals || meets }
      let (others, isAfterEquals) ← literalSegments mode isLast fuel meets rest
      return (.byte c false :: others, isAfterEquals)

/-- The length of the part of a value that a pattern matches at its start or end. A part
is matched up to its first zero byte only. -/
def matchedLength (p : Pattern) (atStart longest : Bool) (t : Text) : Nat :=
  let lengths := List.range (t.length + 1)
  let fits (n : Nat) : Bool :=
    let part := if atStart then t.take n else t.drop (t.length - n)
    p.accepts (part.takeWhile fun c : CodePoint => c ≠ 0)
  ((if longest then lengths.reverse else lengths).find? fits).getD 0

/-- The signs without some at the start or end. -/
def withoutPart (atStart : Bool) (n : Nat) (signs : List Sign) : List Sign :=
  if atStart then signs.drop n else signs.take (signs.length - n)

/-- The signs as a text, in which a gap is a zero byte. -/
def flatText (signs : List Sign) : Text :=
  signs.map fun
    | .byte c _ => c
    | _ => 0

/-- The text without the line ends at its end. -/
def withoutLastLines (t : Text) : Text :=
  (t.reverse.dropWhile fun c : CodePoint => c = '\n').reverse

mutual

/-- The segments of a word. -/
def segments (outputOf : Script → Exec Text) (mode : Mode) : (fuel : Nat) → Word →
    Exec (List Segment)
  | 0, _ => throw .endless
  | _, [] => return []
  | fuel + 1, piece :: rest => do
    let mode' := { mode with hasTilde := false }
    match piece with
    | .literal t true =>
      return ⟨.never, .mark :: Sign.ofText true t⟩ :: (← segments outputOf mode' fuel rest)
    | .literal t false =>
      let (signs, isAfterEquals) ←
        literalSegments mode rest.isEmpty (t.length + 1) mode.hasTilde t
      let splitting := if mode.isSubstitute then Splitting.atSeparators else .never
      return ⟨splitting, signs⟩ :: (← segments outputOf { mode' with isAfterEquals } fuel rest)
    | .parameter name use quoted =>
      let here ← used outputOf mode fuel name use quoted
      return here ++ (← segments outputOf mode' fuel rest)
    | .output script quoted =>
      let t := withoutLastLines (← outputOf script)
      let here := Segment.mk (if quoted then .never else .atSeparators) (Sign.ofText quoted t)
      return here :: (← segments outputOf mode' fuel rest)
    | .arithmetic expression quoted =>
      let inner ← segments outputOf { hasTilde := false } fuel expression
      let n ← calculate (Sign.toText (inner.flatMap (·.signs)))
      let splitting := if quoted then Splitting.never else .atSeparators
      return ⟨splitting, Sign.ofText quoted (Text.ofInt n)⟩ ::
        (← segments outputOf mode' fuel rest)

/-- The segments of a parameter that is put to some use. -/
def used (outputOf : Script → Exec Text) (mode : Mode) :
    (fuel : Nat) → (name : Text) → Use → (quoted : Bool) → Exec (List Segment)
  | 0, _, _, _ => throw .endless
  | fuel + 1, name, use, quoted => do
    let substitute (w : Word) : Exec (List Segment) :=
      segments outputOf { mode with hasTilde := true, isSubstitute := true } fuel w
    let plainText (w : Word) : Exec Text := do
      let inner ← segments outputOf { mode with hasTilde := true, splits := false } fuel w
      return Sign.toText (inner.flatMap (·.signs))
    let isMissing (orEmpty : Bool) : Option Value → Bool
      | none => true
      | some (.text t) => orEmpty && t.isEmpty
      | some (.all _ ts) => orEmpty && ts.all List.isEmpty && decide (ts.length ≤ 1)
    let demanded : Exec (Option Value) := do
      let found ← parameter? name
      if found.isNone && (← hasOption 'u') then fail (name ++ text ": parameter not set")
      return found
    let shown (found : Option Value) : Exec (List Segment) :=
      match found with
      | some v => segmentsOf mode quoted v
      | none => pure []
    match use with
    | .unknown => fail (text "Bad substitution")
    | .value => shown (← demanded)
    | .length =>
      let n ← match ← demanded with
        | some (.text t) => pure t.length
        | some (.all each ts) => do
          let ss ← segmentsOf { mode with splits := false } quoted (.all each ts)
          pure ((ss.map fun s => s.signs.length).foldl (· + ·) 0)
        | none => pure 0
      let splitting := if quoted then Splitting.never else .atSeparators
      return [⟨splitting, Sign.ofText quoted (Text.ofNat n)⟩]
    | .substitute orEmpty w =>
      let found ← parameter? name
      if isMissing orEmpty found then substitute w else shown found
    | .alternative orEmpty w =>
      let found ← parameter? name
      if !isMissing orEmpty found then substitute w
      else return if quoted then [] else [⟨.atSeparators, []⟩]
    | .assign orEmpty w =>
      let found ← parameter? name
      if isMissing orEmpty found then
        assign name (← plainText w)
        shown (← parameter? name)
      else shown found
    | .demand orEmpty w =>
      let found ← parameter? name
      if isMissing orEmpty found then
        let message ← plainText w
        fail (name ++ text ": " ++
          if w.isEmpty then text "parameter not set" ++ (if orEmpty then text " or null" else [])
          else message)
      else shown found
    | .dropStart longest w => dropping mode quoted demanded true longest (patternOf w fuel)
    | .dropEnd longest w => dropping mode quoted demanded false longest (patternOf w fuel)
where
  /-- The segments of a value without what a pattern matches. -/
  dropping (mode : Mode) (quoted : Bool) (value : Exec (Option Value)) (atStart longest : Bool)
      (pattern : Exec Pattern) : Exec (List Segment) := do
    match ← value with
    | none => return []
    | some v =>
      let before ← segmentsOf mode quoted v
      let p ← pattern
      return before.map fun s =>
        { s with signs :=
            withoutPart atStart (matchedLength p atStart longest (flatText s.signs)) s.signs }
  /-- The pattern that a word writes. -/
  patternOf (w : Word) (fuel : Nat) : Exec Pattern := do
    let inner ← segments outputOf {} fuel w
    return (Sign.toMarked (inner.flatMap (·.signs))).pattern

end

/-- How deep words may be nested. -/
def wordDepth : Nat := 100000

/-- The fields of words. -/
def fields (outputOf : Script → Exec Text) (w : Word) : Exec (List Text) := do
  let ss ← segments outputOf { splits := true } wordDepth w
  let separators := (← separators?).getD standardSeparators
  let found := Fields.ofSegments separators none ss
  let m ← get
  return found.flatMap (pathsOrText m)

/-- The text of a word that is not split. -/
def textOf (outputOf : Script → Exec Text) (w : Word) (mode : Mode := {}) : Exec Text := do
  let ss ← segments outputOf mode wordDepth w
  return Sign.toText (ss.flatMap (·.signs))

/-- The pattern that a word writes. -/
def patternOf (outputOf : Script → Exec Text) (w : Word) : Exec Pattern := do
  let ss ← segments outputOf {} wordDepth w
  return (Sign.toMarked (ss.flatMap (·.signs))).pattern

end Exec

end Shell

end AgentWorkshop
