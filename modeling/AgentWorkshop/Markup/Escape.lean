import AgentWorkshop.Text.Basic

/-!
# Escaping markup

The console reads `[bold]` and its like as tags, unless an odd number of
backslashes stands before the bracket. `Markup.escape` writes a text so that
none of it is read as a tag: a bracket that would open one gets the
backslashes before it doubled and one more.
-/

namespace AgentWorkshop

namespace Markup

/-- The code points that may follow the bracket of a tag. -/
def isTagStart (c : CodePoint) : Bool :=
  c.isAsciiSmall || c = '#' || c = '/' || c = '@'

/-- A closing bracket comes before any other opening one. -/
def closes : Text → Bool
  | [] => false
  | c :: rest => c = ']' || (c ≠ '[' && closes rest)

/-- A bracket before this text opens a tag. -/
def opensTag : Text → Bool
  | [] => false
  | c :: rest => isTagStart c && closes rest

/-- Escapes the tags of a text that follows a run of backslashes. -/
def escapeTagsAfter (backslashes : Nat) : Text → Text
  | [] => []
  | c :: rest =>
    if c = '\\' then c :: escapeTagsAfter (backslashes + 1) rest
    else if c = '[' && opensTag rest then
      List.replicate (backslashes + 1) ('\\' : CodePoint) ++ c :: escapeTagsAfter 0 rest
    else c :: escapeTagsAfter 0 rest

/-- Escapes the tags of a text. -/
def escapeTags (t : Text) : Text :=
  escapeTagsAfter 0 t

/-- The text ends with one backslash and not with two. -/
def endsInLoneBackslash (t : Text) : Bool :=
  match t.reverse with
  | c :: d :: _ => c = '\\' && d ≠ '\\'
  | [c] => c = '\\'
  | [] => false

/-- Doubles a lone backslash at the end, which would escape whatever follows. -/
def guardEnd (t : Text) : Text :=
  if endsInLoneBackslash t then t ++ text "\\" else t

/-- The markup that shows a text as it is. -/
def escape (t : Text) : Text :=
  guardEnd (escapeTags t)

end Markup

end AgentWorkshop
