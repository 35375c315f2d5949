import AgentWorkshop.Shell.Source

/-!
# Patterns

A pattern is a list of parts, of which each matches some bytes. A quoted or
escaped sign stands for itself.
-/

namespace AgentWorkshop

namespace Shell

/-- The kinds of bytes that have names. -/
inductive ByteClass where
  | alnum | alpha | blank | cntrl | digit | graph | lower | print | punct | space | upper | xdigit
  deriving DecidableEq, Repr

namespace ByteClass

/-- The kinds with their names. -/
def all : List (Text × ByteClass) :=
  [(text "alnum", alnum), (text "alpha", alpha), (text "blank", blank), (text "cntrl", cntrl),
    (text "digit", digit), (text "graph", graph), (text "lower", lower), (text "print", print),
    (text "punct", punct), (text "space", space), (text "upper", upper), (text "xdigit", xdigit)]

/-- The byte is of the kind. -/
def contains (k : ByteClass) (c : CodePoint) : Bool :=
  let isGraph := decide (0x21 ≤ c.val) && decide (c.val ≤ 0x7E)
  let isAlnum := c.isAsciiLetter || c.isAsciiDigit
  match k with
  | alnum => isAlnum
  | alpha => c.isAsciiLetter
  | blank => c = ' ' || c = '\t'
  | cntrl => decide (c.val < 0x20) || c.val = 0x7F
  | digit => c.isAsciiDigit
  | graph => isGraph
  | lower => c.isAsciiSmall
  | print => isGraph || c = ' '
  | punct => isGraph && !isAlnum
  | space => c = ' ' || (decide (9 ≤ c.val) && decide (c.val ≤ 13))
  | upper => c.isAsciiCapital
  | xdigit => c.hexValue?.isSome

/-- The name of a kind and `:]` at the start of a text, and what follows. -/
def named? (t : Text) : Option (ByteClass × Text) :=
  all.findSome? fun (name, k) => ((name ++ text ":]").isPrefixOf? t).map (k, ·)

end ByteClass

/-- What a set of bytes consists of. -/
inductive Member where
  | range (first last : CodePoint)
  | ofClass (k : ByteClass)
  deriving DecidableEq, Repr

namespace Member

/-- The byte belongs to the set. -/
def contains (c : CodePoint) : Member → Bool
  | range first last => decide (first.val ≤ c.val) && decide (c.val ≤ last.val)
  | ofClass k => k.contains c

end Member

/-- A part of a pattern. -/
inductive PatternPart where
  | exactly (c : CodePoint)
  /-- Any one byte. -/
  | one
  /-- Any run of bytes. -/
  | run
  /-- A byte of a set, or outside of it. -/
  | oneOf (negated : Bool) (members : List Member)
  deriving DecidableEq, Repr

/-- What a text is matched with. -/
abbrev Pattern := List PatternPart

/-- A text whose signs are quoted or not. -/
abbrev Marked := List (CodePoint × Bool)

namespace Marked

/-- The text, unquoted. -/
def ofText (t : Text) : Marked := t.map fun c => (c, false)

/-- The text without its marks. -/
def toText (m : Marked) : Text := m.map (·.1)

/-- The members of a set up to its closing bracket, and what follows. The first
sign closes nothing. -/
def members : (fuel : Nat) → (isFirst : Bool) → Marked → Option (List Member × Marked)
  | 0, _, _ => none
  | _, _, [] => none
  | fuel + 1, isFirst, (c, quoted) :: rest =>
    let more (member : Member) (rest : Marked) : Option (List Member × Marked) :=
      (members fuel false rest).map fun (ms, after) => (member :: ms, after)
    /- A single sign or the first one of a range. -/
    let from_ (c : CodePoint) (rest : Marked) : Option (List Member × Marked) :=
      match rest with
      | (dash, false) :: (d, isQuoted) :: after =>
        if dash = '-' && (d ≠ ']' || isQuoted) then
          if d = '\\' && !isQuoted then
            match after with
            | (d, _) :: after => more (.range c d) after
            | [] => none
          else more (.range c d) after
        else more (.range c c) rest
      | _ => more (.range c c) rest
    if c = ']' && !quoted && !isFirst then some ([], rest)
    else if c = '[' && !quoted then
      match rest with
      | (colon, false) :: inside =>
        match if colon = ':' then ByteClass.named? (toText inside) else none with
        | some (k, after) => more (.ofClass k) (inside.drop (inside.length - after.length))
        | none => from_ c rest
      | _ => from_ c rest
    else if c = '\\' && !quoted then
      match rest with
      | (d, _) :: rest => from_ d rest
      | [] => none
    else from_ c rest

/-- The pattern that a text writes. -/
def toPattern : (fuel : Nat) → Marked → Pattern
  | 0, _ => []
  | _, [] => []
  | fuel + 1, (c, quoted) :: rest =>
    if quoted then .exactly c :: toPattern fuel rest
    else if c = '?' then .one :: toPattern fuel rest
    else if c = '*' then .run :: toPattern fuel rest
    else if c = '\\' then
      match rest with
      | (d, _) :: rest => .exactly d :: toPattern fuel rest
      | [] => [.exactly c]
    else if c = '[' then
      let (negated, inside) := match rest with
        | (d, false) :: more => if d = '!' then (true, more) else (false, rest)
        | _ => (false, rest)
      match members (inside.length + 1) true inside with
      | some (ms, after) => .oneOf negated ms :: toPattern fuel after
      | none => .exactly c :: toPattern fuel rest
    else .exactly c :: toPattern fuel rest

/-- The pattern that a text writes. -/
def pattern (m : Marked) : Pattern :=
  toPattern (m.length + 1) m

/-- A sign of the text may match something else than itself. -/
def isWild (m : Marked) : Bool :=
  m.pattern.any fun
    | .exactly _ => false
    | _ => true

end Marked

namespace Pattern

/-- What is left of a text after each of its starts. -/
def suffixes : Text → List Text
  | [] => [[]]
  | c :: t => (c :: t) :: suffixes t

/-- The whole text is matched. -/
def accepts : Pattern → Text → Bool
  | [], t => t.isEmpty
  | .run :: rest, t => (suffixes t).any fun s => accepts rest s
  | _ :: _, [] => false
  | part :: rest, c :: t =>
    let fits : Bool := match part with
      | .exactly d => c = d
      | .one => true
      | .oneOf negated ms => (ms.any fun m => m.contains c) != negated
      | .run => false
    fits && accepts rest t

end Pattern

end Shell

end AgentWorkshop
