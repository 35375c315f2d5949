import AgentWorkshop.Text.Blank

/-!
# The log of a build

`BuildLog.filter` keeps the lines of a log that tell something: those that are
not blank and not part of the build tool's own chatter.
-/

namespace AgentWorkshop

namespace BuildLog

/-- The phrases that mark a line as chatter. -/
def phrases : List Text :=
  [text "Compiling",
    text "Running",
    text "warning: profiles for the non root package will be ignored",
    text "warning: virtual workspace defaulting to",
    text "note: to keep the current resolver",
    text "note: to use the edition 2021 resolver",
    text "note: for more details see"]

/-- The line says that a profile was finished. -/
def finishesProfile (line : Text) : Bool :=
  match (text "Finished").afterFirst? line with
  | some after => (text "profile").occursIn after
  | none => false

/-- The line is the build tool's own chatter. -/
def isChatter (line : Text) : Bool :=
  finishesProfile line || phrases.any fun phrase => phrase.occursIn line

/-- The line tells something. -/
def isTelling (line : Text) : Bool :=
  !line.isBlank && !isChatter line

/-- The lines of a log that tell something, if there are any. -/
def filter (log : Text) : Option Text :=
  match log.lines.filter isTelling with
  | [] => none
  | telling => some (Text.unlines telling)

end BuildLog

end AgentWorkshop
