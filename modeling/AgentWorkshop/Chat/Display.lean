import AgentWorkshop.Chat.Answer
import AgentWorkshop.Markup.Escape

/-!
# Showing answers

`Answer.markup` is the markup of an answer: a heading, the escaped content and,
where the agent names its model or reports metrics, a section with a line for
each of them.
-/

namespace AgentWorkshop

namespace Answer

/-- The line of a value that may be there. -/
def detail (label : String) (write : Binary64 → Text) : Option Binary64 → List Text
  | some x => [text "- " ++ text label ++ text ": " ++ write x]
  | none => []

/-- A span of time, to hundredths of a second. -/
def seconds (x : Binary64) : Text :=
  x.fixed 2 ++ text "s"

/-- A rate, to the nearest integer, half-way ones to the even integer. -/
def rate (x : Binary64) : Text :=
  Text.ofInt x.round

/-- The line of a model that has a name. -/
def modelDetail : Option Text → List Text
  | some (c :: name) => [text "- Model: " ++ Markup.escape (c :: name)]
  | _ => []

/-- The lines of the section on the agent's performance. -/
def details : Answer → List Text
  | completion c =>
    modelDetail c.model ++
      detail "Total tokens" Binary64.count c.totalTokens ++
      detail "Prompt tokens" Binary64.count c.promptTokens ++
      detail "Completion tokens" Binary64.count c.completionTokens ++
      detail "Time taken" seconds c.timeTaken
  | native n =>
    detail "Time taken" seconds n.timeTaken ++
      detail "Tokens/second" rate n.tokensPerSecond ++
      detail "Total tokens" Binary64.count n.totalTokens
  | plain _ => []

/-- The lines of an answer. -/
def shownLines (a : Answer) : List Text :=
  let start := [[], text "[green]Assistant:[/green]", Markup.escape a.content]
  match a.details with
  | [] => start
  | details => start ++ [[], text "[cyan]Performance Metrics:[/cyan]"] ++ details

/-- The markup of an answer. -/
def markup (a : Answer) : Text :=
  Text.unlines a.shownLines

end Answer

end AgentWorkshop
