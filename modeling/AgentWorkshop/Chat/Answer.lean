import AgentWorkshop.Failure
import AgentWorkshop.Json.Printer

/-!
# Answers of the agent

An agent answers with a completion (an object with `choices`), in the native
form (an object with `response`) or with anything else, which is kept as plain
text. `Answer.ofText` tells them apart, completions first; the one thing that
it cannot read is JSON nested beyond the reader's limit. Metrics are finite.
-/

namespace AgentWorkshop

/-- An answer with `choices`. -/
structure Completion where
  content : Text
  model : Option Text
  timeTaken : Option Binary64
  totalTokens : Option Binary64
  promptTokens : Option Binary64
  completionTokens : Option Binary64
  deriving DecidableEq, Repr

/-- An answer with `response`. -/
structure NativeAnswer where
  content : Text
  timeTaken : Option Binary64
  tokensPerSecond : Option Binary64
  totalTokens : Option Binary64
  deriving DecidableEq, Repr

/-- What an agent answered. -/
inductive Answer where
  | completion (c : Completion)
  | native (n : NativeAnswer)
  | plain (content : Text)
  deriving DecidableEq, Repr

/-- A number that an answer may report. -/
inductive Metric where
  | timeTaken
  | totalTokens
  | promptTokens
  | completionTokens
  | tokensPerSecond
  deriving DecidableEq, Repr

namespace Metric

/-- The name of a metric. -/
def name : Metric → Text
  | timeTaken => text "time_taken"
  | totalTokens => text "total_tokens"
  | promptTokens => text "prompt_tokens"
  | completionTokens => text "completion_tokens"
  | tokensPerSecond => text "tokens_per_second"

/-- The metrics that have a value. -/
def present (ms : List (Metric × Option Binary64)) : List (Metric × Binary64) :=
  ms.filterMap fun (m, x) => x.map (m, ·)

end Metric

namespace Answer

/-- What the agent said. -/
def content : Answer → Text
  | completion c => c.content
  | native n => n.content
  | plain t => t

/-- The metrics of an answer that it reports. -/
def metrics : Answer → List (Metric × Binary64)
  | completion c => Metric.present
      [(.totalTokens, c.totalTokens), (.promptTokens, c.promptTokens),
        (.completionTokens, c.completionTokens), (.timeTaken, c.timeTaken)]
  | native n => Metric.present
      [(.timeTaken, n.timeTaken), (.tokensPerSecond, n.tokensPerSecond),
        (.totalTokens, n.totalTokens)]
  | plain _ => []

/-- The model that the agent names. -/
def model : Answer → Option Text
  | completion c => c.model
  | _ => none

/-! ## Reading -/

/-- The line that may stand before an answer. -/
def preamble : Text := text "A:\n"

/-- The text after its preamble, if it has one. -/
def body (raw : Text) : Text :=
  (preamble.isPrefixOf? raw).getD raw

/-- The double of a JSON number, if it is finite; booleans are no numbers. -/
def metric? : Json → Option Binary64
  | .integer n => if (Binary64.ofInt n).isFinite then some (Binary64.ofInt n) else none
  | .real x => if x.isFinite then some x else none
  | _ => none

/-- The text of a content: strings as they are, nothing for `null`, and other
values as JSON. -/
def contentText : Json → Text
  | .null => []
  | .string t => t
  | v => v.print

/-- The content of a choice: that of its message, else its text. -/
def choiceContent (choice : Json) : Json :=
  match (choice.member (text "message")).member (text "content") with
  | .null => choice.member (text "text")
  | v => v

/-- The completion of an object whose first choice is given. -/
def readCompletion (v choice : Json) : Completion :=
  let usage := v.member (text "usage")
  { content := contentText (choiceContent choice)
    model := (v.member (text "model")).text?
    timeTaken := metric? (usage.member (text "total_time"))
    totalTokens := metric? (usage.member (text "total_tokens"))
    promptTokens := metric? (usage.member (text "prompt_tokens"))
    completionTokens := metric? (usage.member (text "completion_tokens")) }

/-- The native answer of an object whose response is given. -/
def readNative (v response : Json) : NativeAnswer :=
  { content := contentText response
    timeTaken := metric? (v.member (text "time_taken"))
    tokensPerSecond := metric? (v.member (text "tokens_per_second"))
    totalTokens := metric? (v.member (text "total_tokens_generated")) }

/-- The answer of a value that was read, if it has one of the two forms. -/
def ofJson? (v : Json) : Option Answer :=
  match v.member (text "choices"), v.member? (text "response") with
  | .array (choice :: _), _ => some (.completion (readCompletion v choice))
  | _, some response => some (.native (readNative v response))
  | _, none => none

/-- The answer that a text holds. -/
def ofText (raw : Text) : Except Failure Answer :=
  let t := body raw
  match Json.read t with
  | .ok v => .ok ((ofJson? v).getD (.plain t))
  | .error .malformed => .ok (.plain t)
  | .error (.tooDeep container) => .error (.tooDeep container)

end Answer

end AgentWorkshop
