import AgentWorkshop.Chat.Display
import AgentWorkshop.Proofs.Number.Display

/-!
# The lines on the performance of an agent

Which numbers an answer reports is told twice: `Answer.metrics` lists them and `Answer.details`
shows them, each with its own walk through the fields of both kinds of answers. The two are in
step. Below the name of the model stands one line for each metric, in the order of the list
(`details_eq`), and a line begins as those of a metric do only if it is the one of its number
(`filter_details`). So what is shown of an answer is its heading, its content and, if there is a
line at all, the section with them (`performance_shown`).
-/

namespace AgentWorkshop

open Text

namespace Metric

variable {m m' : Metric}

/-- What a metric is called where it is shown, -/
def label : Metric → Text
  | timeTaken => text "Time taken"
  | totalTokens => text "Total tokens"
  | promptTokens => text "Prompt tokens"
  | completionTokens => text "Completion tokens"
  | tokensPerSecond => text "Tokens/second"

/-- how its number is written, -/
def write : Metric → Binary64 → Text
  | timeTaken => Answer.seconds
  | tokensPerSecond => Answer.rate
  | totalTokens | promptTokens | completionTokens => Binary64.count

/-- what its line begins with, -/
def lead (m : Metric) : Text :=
  text "- " ++ m.label ++ text ": "

/-- and the line. -/
def line (m : Metric) (x : Binary64) : Text :=
  m.lead ++ m.write x

theorem numeric_write (m : Metric) (x : Binary64) : Numeric (m.write x) := by
  have hseconds : Numeric (Answer.seconds x) :=
    numeric_append.2 ⟨Binary64.numeric_fixed 2 x, by decide⟩
  cases m with
  | timeTaken => exact hseconds
  | tokensPerSecond => exact numeric_ofInt _
  | totalTokens | promptTokens | completionTokens => exact Binary64.numeric_count x

/-- The line of a metric is one line. -/
theorem feed_not_mem_line (m : Metric) (x : Binary64) : ('\n' : CodePoint) ∉ m.line x := by
  have hlead : ('\n' : CodePoint) ∉ m.lead := by
    cases m <;> decide
  intro hfeed
  rcases List.mem_append.1 hfeed with hfeed | hfeed
  · exact hlead hfeed
  · exact (m.numeric_write x).not_mem (by decide) hfeed

/-- **A line tells by its beginning which metric it is of.** -/
theorem lead_prefix_line (x : Binary64) : m.lead <+: m'.line x ↔ m' = m := by
  constructor
  · intro h
    have hleads := List.prefix_or_prefix_of_prefix h (List.prefix_append m'.lead (m'.write x))
    revert hleads
    cases m <;> cases m' <;> decide
  · rintro rfl
    exact List.prefix_append _ _

theorem present_nil : present [] = [] :=
  rfl

theorem present_cons (m : Metric) (x : Option Binary64) (ms : List (Metric × Option Binary64)) :
    present ((m, x) :: ms) = (x.map (m, ·)).toList ++ present ms := by
  cases x <;> rfl

end Metric

namespace Answer

variable {a : Answer} {m : Metric} {x : Binary64}

/-- The number that an answer has for a metric. -/
def reported : Answer → Metric → Option Binary64
  | completion c, .timeTaken => c.timeTaken
  | completion c, .totalTokens => c.totalTokens
  | completion c, .promptTokens => c.promptTokens
  | completion c, .completionTokens => c.completionTokens
  | native n, .timeTaken => n.timeTaken
  | native n, .tokensPerSecond => n.tokensPerSecond
  | native n, .totalTokens => n.totalTokens
  | _, _ => none

/-- **Each metric is listed once**, with the number that there is. -/
theorem filter_metrics (a : Answer) (m : Metric) :
    a.metrics.filter (fun e => e.1 = m) = ((a.reported m).map (m, ·)).toList := by
  have hfield (m' : Metric) (x : Option Binary64) :
      ((x.map (m', ·)).toList.filter fun e => decide (e.1 = m)) =
        if m' = m then (x.map (m, ·)).toList else [] := by
    by_cases hm : m' = m <;> cases x <;> simp [hm]
  cases a with
  | completion c =>
    simp only [metrics, Metric.present_cons, List.filter_append, hfield]
    cases m <;> simp [reported, Metric.present_nil]
  | native n =>
    simp only [metrics, Metric.present_cons, List.filter_append, hfield]
    cases m <;> simp [reported, Metric.present_nil]
  | plain t => cases m <;> rfl

theorem mem_metrics_iff : (m, x) ∈ a.metrics ↔ a.reported m = some x := by
  have hfilter : (m, x) ∈ a.metrics ↔ (m, x) ∈ a.metrics.filter fun e => e.1 = m := by
    simp
  rw [hfilter, filter_metrics]
  cases a.reported m <;> simp [eq_comm]

/-! ## The details -/

theorem detail_eq (m : Metric) {label : String} (hlabel : text label = m.label)
    (x : Option Binary64) : detail label m.write x = (x.map m.line).toList := by
  cases x with
  | none => rfl
  | some x => rw [detail, hlabel]; rfl

/-- **A line for each metric**, below the name of the model. -/
theorem details_eq (a : Answer) :
    a.details = modelDetail a.model ++ a.metrics.map fun e => e.1.line e.2 := by
  have hmap (m : Metric) (x : Option Binary64) :
      (x.map (m, ·)).toList.map (fun e => e.1.line e.2) = (x.map m.line).toList := by
    cases x <;> rfl
  cases a with
  | completion c =>
    calc (completion c).details
        = modelDetail c.model ++
            detail "Total tokens" Metric.totalTokens.write c.totalTokens ++
            detail "Prompt tokens" Metric.promptTokens.write c.promptTokens ++
            detail "Completion tokens" Metric.completionTokens.write c.completionTokens ++
            detail "Time taken" Metric.timeTaken.write c.timeTaken := rfl
      _ = _ := by
        rw [detail_eq .totalTokens rfl, detail_eq .promptTokens rfl,
          detail_eq .completionTokens rfl, detail_eq .timeTaken rfl]
        simp only [metrics, model, Metric.present_cons, Metric.present_nil, List.map_append, hmap,
          List.append_nil, List.append_assoc]
  | native n =>
    calc (native n).details
        = detail "Time taken" Metric.timeTaken.write n.timeTaken ++
            detail "Tokens/second" Metric.tokensPerSecond.write n.tokensPerSecond ++
            detail "Total tokens" Metric.totalTokens.write n.totalTokens := rfl
      _ = _ := by
        rw [detail_eq .timeTaken rfl, detail_eq .tokensPerSecond rfl, detail_eq .totalTokens rfl]
        simp only [metrics, model, modelDetail, Metric.present_cons, Metric.present_nil,
          List.map_append, hmap, List.append_nil, List.nil_append, List.append_assoc]
  | plain t => rfl

theorem modelDetail_eq_nil_iff {model : Option Text} :
    modelDetail model = [] ↔ model.getD [] = [] := by
  rcases model with _ | _ | ⟨c, name⟩ <;> simp [modelDetail]

theorem details_eq_nil_iff : a.details = [] ↔ a.metrics = [] ∧ a.model.getD [] = [] := by
  rw [details_eq, List.append_eq_nil_iff, List.map_eq_nil_iff, modelDetail_eq_nil_iff, and_comm]

/-- **No line is missing, and none is there for a metric that is not reported.** The line of the
model begins as no other one does. -/
theorem filter_details (a : Answer) (m : Metric) :
    a.details.filter m.lead.isPrefixOf = ((a.reported m).map m.line).toList := by
  have hmodel : (modelDetail a.model).filter m.lead.isPrefixOf = [] := by
    rcases a.model with _ | _ | ⟨c, name⟩
    · rfl
    · rfl
    · cases m <;> rfl
  have hline : (m.lead.isPrefixOf ∘ fun e : Metric × Binary64 => e.1.line e.2) =
      fun e => decide (e.1 = m) := by
    funext e
    rw [Function.comp_apply, Bool.eq_iff_iff, List.isPrefixOf_iff_prefix, decide_eq_true_iff,
      Metric.lead_prefix_line]
  rw [details_eq, List.filter_append, hmodel, List.nil_append, List.filter_map, hline,
    filter_metrics]
  cases a.reported m <;> rfl

/-! ## The whole -/

/-- Lines that follow another one. -/
def below (lines : List Text) : Text :=
  lines.flatMap fun line => ('\n' : CodePoint) :: line

theorem unlines_cons (line : Text) (lines : List Text) :
    Text.unlines (line :: lines) = line ++ below lines := by
  have hfeed : text "\n" = [('\n' : CodePoint)] := rfl
  induction lines generalizing line with
  | nil => simp [Text.unlines, below]
  | cons next lines ih =>
    rw [Text.unlines, List.intercalate_cons_cons, ← Text.unlines, ih, hfeed, List.append_assoc]
    rfl

/-- What stands below the content of an answer. -/
def section? (a : Answer) : List Text :=
  if a.details = [] then []
  else [] :: text "[cyan]Performance Metrics:[/cyan]" :: a.details

theorem shownLines_eq (a : Answer) : a.shownLines =
    [] :: text "[green]Assistant:[/green]" :: Markup.escape a.content :: a.section? := by
  rw [shownLines, section?]
  split <;> simp_all

theorem markup_eq (a : Answer) : a.markup =
    text "\n[green]Assistant:[/green]\n" ++ Markup.escape a.content ++ below a.section? := by
  rw [markup, shownLines_eq, unlines_cons]
  simp only [below, List.flatMap_cons, List.append_assoc]
  rfl

/-- **An answer as it is shown**: the heading, the content and, unless there is nothing to tell,
an empty line and the section on the performance. It has the line of the model, if that has a
name, and one line for each metric in the order of the metrics. Those are the metrics that are
reported, whatever their number is; each has one line, which is the only one that begins like it,
and the others have none. A plain answer has no section. -/
theorem performance_shown (a : Answer) :
    a.markup = text "\n[green]Assistant:[/green]\n" ++ Markup.escape a.content ++
      (if a.metrics = [] ∧ a.model.getD [] = [] then []
        else text "\n\n[cyan]Performance Metrics:[/cyan]" ++ below a.details) ∧
    (a.model.getD [] = [] → a.details = a.metrics.map fun e => e.1.line e.2) ∧
    (∀ name, a.model = some name → name ≠ [] →
      a.details = (text "- Model: " ++ Markup.escape name) ::
        a.metrics.map fun e => e.1.line e.2) ∧
    (∀ m x, (m, x) ∈ a.metrics ↔ a.reported m = some x) ∧
    (∀ m, a.details.filter m.lead.isPrefixOf = ((a.reported m).map m.line).toList) ∧
    (∀ (m : Metric) x, ('\n' : CodePoint) ∉ m.line x) ∧
    ∀ t, a = .plain t →
      a.markup = text "\n[green]Assistant:[/green]\n" ++ Markup.escape t := by
  refine ⟨?_, ?_, ?_, fun m x => mem_metrics_iff, a.filter_details, Metric.feed_not_mem_line, ?_⟩
  · rw [markup_eq, section?]
    simp only [details_eq_nil_iff]
    split
    · rfl
    · simp only [below, List.flatMap_cons, List.append_assoc]
      rfl
  · intro hmodel
    rw [details_eq, modelDetail_eq_nil_iff.2 hmodel, List.nil_append]
  · intro name hmodel hname
    obtain ⟨c, rest, rfl⟩ := List.exists_cons_of_ne_nil hname
    rw [details_eq, hmodel]
    rfl
  · rintro t rfl
    rw [markup_eq]
    exact List.append_nil _

/-- An answer of two lines that took no tokens at all. -/
def idle : Answer :=
  .completion ⟨text "[ok]\nthere", some (text "m"), none, some (.ofInt 0), none, some (.ofInt 12)⟩

set_option maxRecDepth 4000 in
/-- The zero is shown as well. -/
theorem performance_shown_idle : idle.markup = text
    ("\n[green]Assistant:[/green]\n\\[ok]\nthere\n\n[cyan]Performance Metrics:[/cyan]\n" ++
      "- Model: m\n- Total tokens: 0\n- Completion tokens: 12") := by
  have hmetrics : idle.metrics = [(.totalTokens, .ofInt 0), (.completionTokens, .ofInt 12)] := rfl
  have hcontent : Markup.escape idle.content = text "\\[ok]\nthere" := by decide
  have hmodel : text "- Model: " ++ Markup.escape (text "m") = text "- Model: m" := by decide
  have hlines : idle.metrics.map (fun e => e.1.line e.2) =
      [text "- Total tokens: 0", text "- Completion tokens: 12"] := by
    rw [hmetrics]
    simp only [List.map_cons, List.map_nil, Metric.line, Metric.write,
      Binary64.count_ofInt (n := 0) (by decide), Binary64.count_ofInt (n := 12) (by decide)]
    decide
  obtain ⟨hmarkup, -, hnamed, -⟩ := performance_shown idle
  rw [hmarkup, hnamed (text "m") rfl (by decide), hlines, hmodel, hcontent,
    if_neg (by simp [hmetrics])]
  rfl

end Answer

end AgentWorkshop
