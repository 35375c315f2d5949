import AgentWorkshop.Proofs.Chat.Calls
import AgentWorkshop.Proofs.Chat.Contract
import AgentWorkshop.Proofs.Chat.Performance
import AgentWorkshop.Proofs.Markup.Tags

/-!
# What is shown has no tags but its own

Answers, logs and the history are shown with what the agent, its build or the user wrote
escaped. So the live tags of what is shown are those of the headings, whatever was written
(`live_shown`). In an answer escaped texts stand above other lines; what keeps them apart is
that the lines below an escaped one are numbers, which are `Plain`, or begin with a heading,
which opens a bracket before it closes one.
-/

namespace AgentWorkshop

open Markup

/-! ## Answers -/

namespace Answer

section
variable {lines : List Text}

theorem plain_below (h : ∀ line ∈ lines, Plain line) : Plain (below lines) := by
  intro c hc
  obtain ⟨line, hline, hc⟩ := List.mem_flatMap.1 hc
  rcases List.mem_cons.1 hc with rfl | hc
  · decide
  · exact h line hline c hc

theorem closes_of_plain {t : Text} (h : Plain t) : closes t = false := by
  induction t with
  | nil => rfl
  | cons c t ih =>
    obtain ⟨⟨-, hclose, -⟩, ht⟩ := List.forall_mem_cons.1 h
    rw [closes, ih ht]
    simp [hclose]

/-- So any text may stand above plain lines. -/
theorem apart_below (h : ∀ line ∈ lines, Plain line) : Apart (below lines) := by
  cases lines with
  | nil => exact apart_nil
  | cons line lines =>
    exact apart_newline (closes_of_plain fun c hc => plain_below h c (List.mem_cons_of_mem _ hc))

theorem live_below (h : ∀ line ∈ lines, Plain line) : live (below lines) = [] := by
  rw [← List.append_nil (below lines), live_plain_append (plain_below h), live_nil]

end

/-- A number has nothing of a tag. -/
theorem plain_of_numeric {t : Text} (h : t.Numeric) : Plain t := by
  intro c hc
  refine ⟨?_, ?_, ?_⟩ <;> rintro rfl <;> exact h.not_mem (by decide) hc

/-- Nor has the line of a metric. -/
theorem plain_line (m : Metric) (x : Binary64) : Plain (m.line x) := by
  have hlead : Plain m.lead := by
    cases m <;> decide
  exact plain_append.2 ⟨hlead, plain_of_numeric (m.numeric_write x)⟩

/-- **The details have no live tags**, whatever the model is called. -/
theorem live_details (a : Answer) : live (below a.details) = [] := by
  have hplain : ∀ line ∈ a.metrics.map fun e => e.1.line e.2, Plain line := by
    intro line hline
    obtain ⟨e, -, rfl⟩ := List.mem_map.1 hline
    exact plain_line e.1 e.2
  rw [details_eq]
  generalize (a.metrics.map fun e => e.1.line e.2) = numbers at hplain ⊢
  rcases a.model with _ | _ | ⟨c, name⟩
  · exact live_below hplain
  · exact live_below hplain
  · have hlabel : Plain (('\n' : CodePoint) :: text "- Model: ") := by decide
    calc live (below (modelDetail (some (c :: name)) ++ numbers))
        = live (('\n' : CodePoint) :: text "- Model: " ++
            (escape (c :: name) ++ below numbers)) := by
          simp only [below, modelDetail, List.flatMap_cons, List.cons_append, List.nil_append,
            List.append_assoc]
      _ = live (below numbers) := by
          rw [live_plain_append hlabel, live_escape_append (apart_below hplain)]
      _ = [] := live_below hplain

theorem apart_section (a : Answer) : Apart (below a.section?) := by
  rw [section?]
  split
  · exact apart_nil
  · exact apart_newline rfl

theorem live_section (a : Answer) :
    live (below a.section?) = if a.details = [] then [] else pair (text "cyan") := by
  have hheading : text "[cyan]Performance Metrics:[/cyan]" =
      heading (text "cyan") (text "Performance Metrics:") := by decide
  have hfeeds : Plain [('\n' : CodePoint), ('\n' : CodePoint)] := by decide
  rw [section?]
  split
  · exact live_below (by simp)
  calc live (below ([] :: text "[cyan]Performance Metrics:[/cyan]" :: a.details))
      = live ([('\n' : CodePoint), ('\n' : CodePoint)] ++
          (heading (text "cyan") (text "Performance Metrics:") ++ below a.details)) := by
        rw [hheading]
        simp only [below, List.flatMap_cons, List.cons_append, List.nil_append]
    _ = pair (text "cyan") := by
        rw [live_plain_append hfeeds, live_heading (by decide) (by decide)
          (by decide), live_details, List.append_nil]

/-- **The tags of an answer are those of its headings.** -/
theorem live_markup (a : Answer) : live a.markup =
    pair (text "green") ++ if a.details = [] then [] else pair (text "cyan") := by
  have hheading : text "[green]Assistant:[/green]" =
      heading (text "green") (text "Assistant:") := by decide
  have hfeed : Plain [('\n' : CodePoint)] := by decide
  calc live a.markup
      = live ([('\n' : CodePoint)] ++ (heading (text "green") (text "Assistant:") ++
          ([('\n' : CodePoint)] ++ (escape a.content ++ below a.section?)))) := by
        rw [markup, shownLines_eq, hheading, unlines_cons]
        simp only [below, List.flatMap_cons, List.cons_append, List.nil_append]
    _ = pair (text "green") ++ live (below a.section?) := by
        rw [live_plain_append hfeed, live_heading (by decide) (by decide)
          (by decide), live_plain_append hfeed, live_escape_append a.apart_section]
    _ = _ := by rw [live_section]

end Answer

/-! ## Logs and the history -/

namespace Session

variable {s : Session} {w : Workshop} {line : Text}

/-- **The tags of a log are those of its heading.** -/
theorem live_of_logEvents {title : String} {style words : Text}
    (htitle : text title = heading style words) (hstart : style.head?.any isTagStart = true)
    (hstyle : Plain style) (hwords : Plain words) (log : Text) :
    ∀ e ∈ logEvents title log, ∃ t, e = .line t ∧ live t = pair style := by
  have hfeed : Plain (text "\n") := by decide
  rw [logEvents]
  cases BuildLog.filter log with
  | none => exact fun _ h => absurd h List.not_mem_nil
  | some lines =>
    refine List.forall_mem_singleton.2 ⟨_, rfl, ?_⟩
    rw [htitle, List.append_assoc, live_heading hstart hstyle hwords, live_plain_append hfeed,
      live_escape, List.append_nil]

theorem handle_showHistory (h : requestOf line = .showHistory) : s.handle line w =
    .ok true { w with shown := w.shown ++ [.line (text "[blue]Conversation History:[/blue]"),
      .line (escape w.history.render)] } := by
  rw [handle, h]
  simp only [Step.bind_ok (Action.print_apply _ _), Step.bind_ok (Step.get_apply _)]
  simp [Step.pure_apply]

/-- **What is shown has no tags but its own.** An answer has those of its heading and, if there
is one, of the heading of its metrics; logs have those of the headings above them; the history
has none. -/
theorem live_shown :
    (∀ a : Answer, live a.markup =
      pair (text "green") ++ if a.details = [] then [] else pair (text "cyan")) ∧
    (∀ log w, printLog "[red]Errors:[/red]" log w =
        .ok () { w with shown := w.shown ++ logEvents "[red]Errors:[/red]" log } ∧
      ∀ e ∈ logEvents "[red]Errors:[/red]" log, ∃ t, e = .line t ∧ live t = pair (text "red")) ∧
    (∀ log w, printLog "[bold]Logs:[/bold]" log w =
        .ok () { w with shown := w.shown ++ logEvents "[bold]Logs:[/bold]" log } ∧
      ∀ e ∈ logEvents "[bold]Logs:[/bold]" log, ∃ t, e = .line t ∧ live t = pair (text "bold")) ∧
    ∀ (s : Session) line w, requestOf line = .showHistory →
      s.handle line w = .ok true { w with shown := w.shown ++
        [.line (text "[blue]Conversation History:[/blue]"), .line (escape w.history.render)] } ∧
      live (escape w.history.render) = [] := by
  have hred : text "[red]Errors:[/red]" = heading (text "red") (text "Errors:") := by decide
  have hbold : text "[bold]Logs:[/bold]" = heading (text "bold") (text "Logs:") := by decide
  exact ⟨Answer.live_markup,
    fun log w => ⟨printLog_apply _ log,
      live_of_logEvents hred (by decide) (by decide) (by decide) log⟩,
    fun log w => ⟨printLog_apply _ log,
      live_of_logEvents hbold (by decide) (by decide) (by decide) log⟩,
    fun s line w hline => ⟨handle_showHistory hline, live_escape _⟩⟩

/-- A conversation in which somebody said a tag. -/
def tagged : Workshop :=
  { answering [] with history := [⟨.user, text "[/bold]"⟩] }

/-- The tag is shown as it is. -/
theorem live_shown_tagged : requestOf (text " /History") = .showHistory ∧
    small.handle (text " /History") tagged = .ok true { tagged with shown :=
      [.line (text "[blue]Conversation History:[/blue]"),
        .line (text "1. user: \\[/bold]\n")] } ∧
    live (text "1. user: \\[/bold]\n") = [] := by
  have hline : requestOf (text " /History") = .showHistory := by decide
  have hrender : escape (History.render tagged.history) = text "1. user: \\[/bold]\n" := by cbv
  obtain ⟨hhandle, hlive⟩ := live_shown.2.2.2 small (text " /History") tagged hline
  rw [hrender] at hhandle hlive
  exact ⟨hline, hhandle, hlive⟩

end Session

end AgentWorkshop
