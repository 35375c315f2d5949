import AgentWorkshop.Console.Event
import AgentWorkshop.Markup.Escape

/-!
# Notices

The lines with which the tools report success, warn and complain. Their words
are escaped, so that they cannot disturb the style around them; the title and
subtitle of a header are markup themselves.
-/

namespace AgentWorkshop

namespace Notice

/-- Words in a style. -/
def styled (style words : Text) : Text :=
  text "[" ++ style ++ text "]" ++ Markup.escape words ++ text "[/" ++ style ++ text "]"

/-- Something was done. -/
def success (words : Text) : Event :=
  .line (styled (text "bold green") words)

/-- Something failed. -/
def error (words : Text) : Event :=
  .line (styled (text "bold red") words)

/-- Something to be aware of. -/
def warning (words : Text) : Event :=
  .line (styled (text "bold yellow") words)

/-- The boxed header of a tool; an empty subtitle is left out. -/
def header (title subtitle : Text) : Event :=
  let body := text "[bold]" ++ title ++ text "[/bold]"
  let body := match subtitle with
    | [] => body
    | _ => body ++ text "\n[dim]" ++ subtitle ++ text "[/dim]"
  .panel body (text "cyan")

/-- A failure that nobody foresaw, with its origin if that is wanted. -/
def unhandled (failure : Failure) (showOrigin : Bool) : List Event :=
  error (text "Unhandled error: " ++ failure.message) ::
    if showOrigin then [.trace failure] else []

end Notice

end AgentWorkshop
