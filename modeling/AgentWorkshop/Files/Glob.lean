import AgentWorkshop.Text.Basic

/-!
# Patterns of file names

In a `Glob`, `*` stands for any run of code points, `?` for any one, and a
bracketed list for any one of the listed points and ranges, or, after `!`, for
any other. Ranges that are empty do not count, and a bracket that is not closed
stands for itself.
-/

namespace AgentWorkshop

/-- The code points that one item of a bracketed list stands for. -/
structure Span where
  low : CodePoint
  high : CodePoint
  deriving DecidableEq, Repr

/-- One part of a pattern. -/
inductive GlobPart where
  /-- Any run of code points. -/
  | run
  /-- Any one code point. -/
  | any
  /-- This code point. -/
  | point (c : CodePoint)
  /-- One in the spans, or, if `negated`, one in none of them. -/
  | spans (negated : Bool) (items : List Span)
  deriving DecidableEq, Repr

/-- A pattern for names. -/
abbrev Glob := List GlobPart

namespace GlobPart

/-- The code point matches the part. -/
def admits : GlobPart → CodePoint → Bool
  | .run, _ => true
  | .any, _ => true
  | .point d, c => c = d
  | .spans negated items, c =>
    (items.any fun s => decide (s.low ≤ c) && decide (c ≤ s.high)) != negated

end GlobPart

namespace Glob

/-- The runs of a bracketed list between the hyphens of its ranges. Such a
hyphen has at least `least` code points before it, and another one after it. -/
def runsOf : (fuel least : Nat) → Text → List Text
  | 0, _, s => [s]
  | fuel + 1, least, s =>
    let isOther (c : CodePoint) : Bool := c ≠ '-'
    let more := s.drop least
    match more.dropWhile isOther with
    | _ :: c :: rest => (s.take least ++ more.takeWhile isOther) :: runsOf fuel 2 (c :: rest)
    | _ => [s]

/-- The runs without ranges whose ends are in the wrong order, ends included. -/
def withoutReversed (runs : List Text) : List Text :=
  runs.foldr (fun run later =>
    match later, run.getLast? with
    | (high :: others) :: rest, some low =>
      if high < low then (run.dropLast ++ others) :: rest else run :: later
    | _, _ => run :: later) []

/-- One sign of a bracketed list. -/
inductive ListSign where
  | point (c : CodePoint)
  /-- The hyphen of a range. -/
  | through
  deriving DecidableEq, Repr

/-- The signs of a bracketed list. -/
def signsOf (s : Text) : List ListSign :=
  let least := if s.head? = some ('!' : CodePoint) then 2 else 1
  List.intercalate [.through] ((withoutReversed (runsOf s.length least s)).map (·.map .point))

/-- The spans of the signs. -/
def spansOf : List ListSign → List Span
  | .point low :: .through :: .point high :: rest => ⟨low, high⟩ :: spansOf rest
  | .point c :: rest => ⟨c, c⟩ :: spansOf rest
  | .through :: rest => ⟨'-', '-'⟩ :: spansOf rest
  | [] => []

/-- The part that a bracketed list writes. It is negated if an exclamation mark
is its first sign. -/
def listPart (s : Text) : GlobPart :=
  match signsOf s with
  | .point c :: rest =>
    if c = '!' then .spans true (spansOf rest) else .spans false (spansOf (.point c :: rest))
  | signs => .spans false (spansOf signs)

/-- What stands in a bracketed list after its opening bracket, and what follows
the closing one. A closing bracket that comes first is listed. -/
def bracketed? (s : Text) : Option (Text × Text) :=
  let (mark, s) := match s with
    | c :: rest => if c = '!' then ([c], rest) else ([], s)
    | [] => ([], [])
  let (first, s) := match s with
    | c :: rest => if c = ']' then ([c], rest) else ([], s)
    | [] => ([], [])
  match s.dropWhile fun c : CodePoint => c ≠ ']' with
  | [] => none
  | _ :: after => some (mark ++ first ++ s.takeWhile (fun c : CodePoint => c ≠ ']'), after)

/-- The pattern that a text writes. Each part takes at least one code point of
the text, so its length is enough fuel. -/
def parse : (fuel : Nat) → Text → Glob
  | 0, _ => []
  | _, [] => []
  | fuel + 1, c :: rest =>
    if c = '*' then .run :: parse fuel rest
    else if c = '?' then .any :: parse fuel rest
    else if c = '[' then
      match bracketed? rest with
      | some (items, after) => listPart items :: parse fuel after
      | none => .point c :: parse fuel rest
    else .point c :: parse fuel rest

/-- The pattern that a text writes. -/
def ofText (t : Text) : Glob :=
  parse t.length t

/-- Some tail of the name, itself included, is accepted. -/
def someTail (accepts : Text → Bool) : Text → Bool
  | [] => accepts []
  | c :: rest => accepts (c :: rest) || someTail accepts rest

/-- The whole name matches the pattern. -/
def admits : Glob → Text → Bool
  | [], name => name.isEmpty
  | .run :: parts, name => someTail (admits parts) name
  | _ :: _, [] => false
  | part :: parts, c :: rest => part.admits c && admits parts rest

end Glob

end AgentWorkshop
