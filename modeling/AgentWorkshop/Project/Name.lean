import AgentWorkshop.Failure

/-!
# Project names

A name has letters, digits, underscores and hyphens of ASCII and at least one
of them; `ProjectName.check` lets a single line feed follow.
-/

namespace AgentWorkshop

namespace ProjectName

/-- The name that is proposed. -/
def usual : Text := text "my-uomi-agent"

/-- A name may contain the code point. -/
def admits (c : CodePoint) : Bool :=
  c.isAsciiLetter || c.isAsciiDigit || c = '_' || c = '-'

/-- The text is a name, perhaps with a line feed after it. -/
def accepts (name : Text) : Bool :=
  match name.dropWhile admits with
  | [] => !name.isEmpty
  | [c] => c = '\n' && name.length ≠ 1
  | _ => false

/-- The text, if it is accepted as a name. -/
def check (name : Text) : Except Failure Text :=
  if accepts name then .ok name else .error (.badName name)

end ProjectName

end AgentWorkshop
