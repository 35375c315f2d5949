import AgentWorkshop.Console.Notice
import AgentWorkshop.Proofs.Markup.Tags

/-!
# Notices in their style

The line of a success, an error or a warning is its words between the tag that starts a style and
the one that ends it, with nothing between the words and that tag. It `Encloses` its words in the
style whatever tags they hold (`style_kept_iff`). The one case in which it does not is that of
words that end in three backslashes, or five, and so on: escaping doubles a lone backslash and
leaves any other run at the end alone, so one that is odd takes the meaning of the closing tag.
-/

namespace AgentWorkshop

namespace Notice

open Markup

/-- The line has exactly two live tags: the one that starts the style, with which it begins, and
the one that ends the style, with which it ends. -/
def Encloses (style line : Text) : Prop :=
  ∃ rest n, line = ('[' : CodePoint) :: style ++ (']' : CodePoint) :: rest ∧
    liveFinds line = [(⟨0, style⟩, rest), (⟨n, ('/' : CodePoint) :: style⟩, [])]

/-- The line begins with the tag that starts the style and has no other live tag. -/
def RunsOn (style line : Text) : Prop :=
  ∃ rest, line = ('[' : CodePoint) :: style ++ (']' : CodePoint) :: rest ∧
    liveFinds line = [(⟨0, style⟩, rest)]

/-- The words end in an odd number of backslashes, and in more than one. -/
def Trails (words : Text) : Prop :=
  endRun words % 2 = 1 ∧ endRun words ≠ 1

instance (words : Text) : Decidable (Trails words) :=
  inferInstanceAs (Decidable (_ ∧ _))

variable {style line words : Text}

theorem RunsOn.not_encloses (h : RunsOn style line) : ¬ Encloses style line := by
  rintro ⟨_, _, -, htwo⟩
  obtain ⟨_, -, hone⟩ := h
  rw [htwo] at hone
  cases hone

/-- An escaped text leaves an odd number of backslashes behind exactly if it trails. -/
theorem guardedRun_odd_iff (words : Text) :
    guardedRun (endRun words) % 2 = 1 ↔ Trails words := by
  rw [guardedRun, Trails]
  split <;> omega

/-- The tag that ends a style, after some backslashes. -/
theorem liveFinds_closing (hstyle : Plain style) (n : Nat) :
    liveFinds (backslashes n ++
        (('[' : CodePoint) :: ('/' : CodePoint) :: style ++ [(']' : CodePoint)])) =
      if n % 2 = 1 then [] else [(⟨n, ('/' : CodePoint) :: style⟩, [])] := by
  rw [liveFinds_ending hstyle, liveFinds_of_plain (by decide)]

/-- **The live tags of words in a style.** -/
theorem liveFinds_styled (hstart : style.head?.any isTagStart = true) (hstyle : Plain style)
    (words : Text) : ∃ rest,
    styled style words = ('[' : CodePoint) :: style ++ (']' : CodePoint) :: rest ∧
    liveFinds (styled style words) = (⟨0, style⟩, rest) ::
      if Trails words then []
      else [(⟨guardedRun (endRun words), ('/' : CodePoint) :: style⟩, [])] := by
  rcases style with _ | ⟨c, word⟩
  · cases hstart
  have hword : Plain word := fun d hd => hstyle d (List.mem_cons_of_mem _ hd)
  have hline : styled (c :: word) words = ('[' : CodePoint) :: c :: word ++ (']' : CodePoint) ::
      (escape words ++ (('[' : CodePoint) :: ('/' : CodePoint) :: c :: word ++
        [(']' : CodePoint)])) := by
    simp only [styled, List.append_assoc]
    rfl
  refine ⟨_, hline, ?_⟩
  rw [hline]
  refine (liveFinds_tag (n := 0) rfl hstart hword _).trans (congrArg (_ :: ·) ?_)
  rw [liveFinds_escape_append rfl rfl, liveFinds_closing hstyle]
  simp only [guardedRun_odd_iff]

/-- The notice is a line that encloses its words in the style unless they trail; if they do, the
style runs on. -/
def KeepsStyle (style words : Text) (notice : Event) : Prop :=
  ∃ line, notice = .line line ∧ (Encloses style line ↔ ¬ Trails words) ∧
    (RunsOn style line ↔ Trails words)

theorem keepsStyle_styled (hstart : style.head?.any isTagStart = true) (hstyle : Plain style)
    (words : Text) : KeepsStyle style words (.line (styled style words)) := by
  obtain ⟨rest, hline, hlive⟩ := liveFinds_styled hstart hstyle words
  refine ⟨_, rfl, ?_⟩
  by_cases htrails : Trails words
  · rw [if_pos htrails] at hlive
    have hruns : RunsOn style (styled style words) := ⟨rest, hline, hlive⟩
    exact ⟨iff_of_false hruns.not_encloses (not_not_intro htrails), iff_of_true hruns htrails⟩
  · rw [if_neg htrails] at hlive
    have hencloses : Encloses style (styled style words) := ⟨rest, _, hline, hlive⟩
    exact ⟨iff_of_true hencloses htrails,
      iff_of_false (fun hruns => hruns.not_encloses hencloses) htrails⟩

/-- **Notices keep their style**, whatever their words are, exactly if these do not end in an odd
number of backslashes above one; then the style is never ended. -/
theorem style_kept_iff (words : Text) :
    KeepsStyle (text "bold green") words (success words) ∧
    KeepsStyle (text "bold red") words (error words) ∧
    KeepsStyle (text "bold yellow") words (warning words) :=
  ⟨keepsStyle_styled (by decide) (by decide) words,
    keepsStyle_styled (by decide) (by decide) words,
    keepsStyle_styled (by decide) (by decide) words⟩

/-- **Three backslashes take the meaning of the closing tag.** -/
theorem three_backslashes_run_on :
    success (text "done\\\\\\") = .line (text "[bold green]done\\\\\\[/bold green]") ∧
    RunsOn (text "bold green") (text "[bold green]done\\\\\\[/bold green]") ∧
    ¬ Encloses (text "bold green") (text "[bold green]done\\\\\\[/bold green]") := by
  have hline : styled (text "bold green") (text "done\\\\\\") =
      text "[bold green]done\\\\\\[/bold green]" := by decide
  have hstart : (text "bold green").head?.any isTagStart = true := by decide
  have hstyle : Plain (text "bold green") := by decide
  obtain ⟨rest, hbegins, hlive⟩ := liveFinds_styled hstart hstyle (text "done\\\\\\")
  rw [if_pos (by decide), hline] at hlive
  have hruns : RunsOn (text "bold green") (text "[bold green]done\\\\\\[/bold green]") :=
    ⟨rest, hline ▸ hbegins, hlive⟩
  exact ⟨congrArg Event.line hline, hruns, hruns.not_encloses⟩

end Notice

end AgentWorkshop
