import AgentWorkshop.Text.Basic

/-!
# Paths

A path is an anchor and a list of parts. Reading one drops empty parts and
lone dots and keeps `..`; a path that starts with exactly two slashes keeps
both. Joining an anchored path to another one replaces it.
-/

namespace AgentWorkshop

/-- Where a path starts. -/
inductive Anchor where
  /-- The working directory. -/
  | here
  /-- The top directory. -/
  | top
  /-- The top directory, written with two slashes. -/
  | doubleTop
  deriving DecidableEq, Repr

/-- A path to a file or directory. -/
structure Path where
  /-- Where the path starts. -/
  anchor : Anchor
  /-- The names from there on. -/
  parts : List Text
  deriving DecidableEq, Repr

namespace Path

/-- The anchor that a text starts with. -/
def anchorOf (t : Text) : Anchor :=
  match (t.takeWhile fun c : CodePoint => c = '/').length with
  | 0 => .here
  | 2 => .doubleTop
  | _ => .top

/-- The names between the slashes of a text, without empty ones and lone dots. -/
def partsOf (t : Text) : List Text :=
  (t.splitOn ('/' : CodePoint)).filter fun part => !part.isEmpty && part ≠ AgentWorkshop.text "."

/-- The path that a text writes. -/
def ofText (t : Text) : Path :=
  { anchor := anchorOf t, parts := partsOf t }

/-- The text of an anchor. -/
def anchorText : Anchor → Text
  | .here => []
  | .top => AgentWorkshop.text "/"
  | .doubleTop => AgentWorkshop.text "//"

/-- The text of a path; the working directory is a dot. -/
def toText (p : Path) : Text :=
  match anchorText p.anchor ++ List.intercalate (AgentWorkshop.text "/") p.parts with
  | [] => AgentWorkshop.text "."
  | t => t

/-- The path `q`, taken from `p` unless it has an anchor of its own. -/
def join (p q : Path) : Path :=
  match q.anchor with
  | .here => { p with parts := p.parts ++ q.parts }
  | _ => q

/-- The path that a text writes, taken from `p`. -/
def child (p : Path) (t : Text) : Path :=
  p.join (ofText t)

/-- The directory that holds a path; an anchor is held by itself. -/
def parent (p : Path) : Path :=
  { p with parts := p.parts.dropLast }

/-- The path contains the code point U+0000, which no file name may. -/
def hasNull (p : Path) : Bool :=
  p.parts.any fun part => part.contains 0

end Path

end AgentWorkshop
