import AgentWorkshop.Proofs.Project.Parts

/-!
# The advice on what to do next

`wasp create` ends with four lines of advice. Nothing that comes before them shows a line that
is one of theirs: `Action.Shows` says what all that an action shows is like, whether it fails or
not, and is `Compositional`, so of each part only the lines that it shows have to be looked at.
-/

namespace AgentWorkshop

namespace Action

variable {α β : Type} {act : Action α} {P : Event → Prop}

/-- All that the action shows is like this. -/
def Shows (P : Event → Prop) (act : Action α) : Prop :=
  ∀ w, ∃ new, (act.after w).shown = w.shown ++ new ∧ ∀ e ∈ new, P e

theorem shows_of_same (h : ∀ w, (act.after w).shown = w.shown) : Shows P act := by
  intro w
  exact ⟨[], by rw [h, List.append_nil], fun e he => nomatch he⟩

theorem shows_pure (a : α) : Shows P (pure a : Action α) :=
  shows_of_same fun _ => rfl

theorem shows_throw (f : Failure) : Shows P (throw f : Action α) :=
  shows_of_same fun _ => rfl

theorem shows_get : Shows P (get : Action Workshop) :=
  shows_of_same fun _ => rfl

theorem shows_launch (i : Invocation) : Shows P (launch i) :=
  shows_of_same fun _ => rfl

theorem shows_onFiles (work : Address → FileAction α) : Shows P (onFiles work) := by
  refine shows_of_same fun w => ?_
  rw [after, onFiles]
  cases work w.directory w.files <;> rfl

theorem shows_display {e : Event} (h : P e) : Shows P (display e) := by
  intro w
  exact ⟨[e], rfl, by simpa using h⟩

/-- **A sequence shows what its parts show.** -/
theorem Shows.bind {next : α → Action β} (hact : Shows P act) (hnext : ∀ a, Shows P (next a)) :
    Shows P (act >>= next) := by
  intro w
  obtain ⟨new, hshown, hnew⟩ := hact w
  cases h : act w with
  | ok a w' =>
    obtain ⟨later, hlater, hall⟩ := hnext a w'
    rw [after_ok h] at hshown
    refine ⟨new ++ later, by rw [after_bind_ok h, hlater, hshown, List.append_assoc], ?_⟩
    intro e he
    exact (List.mem_append.1 he).elim (hnew e) (hall e)
  | error f w' =>
    rw [after_error h] at hshown
    exact ⟨new, by rw [after_error (Step.bind_error h), hshown], hnew⟩

theorem Shows.attempt (h : Shows P act) : Shows P (attempt act) := by
  intro w
  obtain ⟨new, hshown, hnew⟩ := h w
  refine ⟨new, ?_, hnew⟩
  rw [← hshown, after, after, Action.attempt]
  cases act w <;> rfl

theorem compositional_shows (P : Event → Prop) :
    Compositional P fun _ act => Shows P act where
  pure := shows_pure
  throw := shows_throw
  display := shows_display
  onFiles := shows_onFiles
  launch := shows_launch
  bind := fun h hnext => h.bind hnext
  attempt := fun h => h.attempt

end Action

open AgentWorkshop.Action

namespace CreateProgram

/-! ## The advice on what to do next -/

/-- The title of the advice. -/
def adviceTitle : Event :=
  .line (text "\n[cyan]Next steps:[/cyan]")

/-- What the user is told to do next in a project of this name. -/
def advice (name : Text) : List Event :=
  [adviceTitle, .line (text "  1. cd " ++ name), .line (text "  2. npm run start\n"),
    .line (text "Start building your UOMI agent!")]

/-- The event is a line of no advice. -/
def Unadvising (e : Event) : Prop :=
  ∀ name, e ∉ advice name

/-- How the lines of an advice begin. -/
def adviceBeginnings : List Text :=
  [text "\n[c", text "  1", text "  2", text "Sta"]

variable {e : Event} {markup : Text}

theorem Unadvising.ne_title (h : Unadvising e) : adviceTitle ≠ e := by
  rintro rfl
  exact h [] (.head _)

theorem unadvising_line (h : markup.take 3 ∉ adviceBeginnings) : Unadvising (.line markup) := by
  intro name hmem
  have hname : (text "  1. cd " ++ name).take 3 ∈ adviceBeginnings := .tail _ (.head _)
  simp only [advice, adviceTitle, List.mem_cons, Event.line.injEq, List.not_mem_nil,
    or_false] at hmem
  rcases hmem with rfl | rfl | rfl | rfl
  · exact h (by decide)
  · exact h hname
  · exact h (by decide)
  · exact h (by decide)

/-- What is no line is no line of an advice. -/
theorem unadvising_of_ne (h : ∀ markup, e ≠ .line markup) : Unadvising e := by
  intro name hmem
  simp only [advice, adviceTitle, List.mem_cons, List.not_mem_nil, or_false] at hmem
  rcases hmem with rfl | rfl | rfl | rfl <;> exact h _ rfl

/-- Neither is a line that begins with a style. -/
theorem unadvising_bracket (rest : Text) : Unadvising (.line ('[' :: rest)) := by
  have hheads : ∀ b ∈ adviceBeginnings, b.head? ≠ some '[' := by decide
  exact unadvising_line fun h => hheads _ h rfl

theorem unadvising_status (words : Text) : Unadvising (.status words) :=
  unadvising_of_ne fun _ h => nomatch h

theorem unadvising_ask (question usual : Text) (choices : Option (List Text)) :
    Unadvising (.ask question usual choices) :=
  unadvising_of_ne fun _ h => nomatch h

/-! ## What is said on the way -/

theorem unadvising_latest (reply : Reply) (distribution : Text) :
    Shows Unadvising (Release.latest reply distribution) := by
  have hclient : Unadvising (.client Release.patience) := unadvising_of_ne fun _ h => nomatch h
  have hfetch (address : Text) : Unadvising (.fetch address) :=
    unadvising_of_ne fun _ h => nomatch h
  refine (shows_display hclient).bind fun _ => (shows_display (hfetch _)).bind fun _ => ?_
  cases Release.addressFault? (Release.address distribution) with
  | some f => exact shows_throw f
  | none =>
    cases Release.versionIn reply with
    | ok version => exact shows_pure version
    | error f => exact shows_throw f

theorem unadvising_check (reply : Reply) (current distribution : Text) :
    Shows Unadvising (Release.check reply current distribution) := by
  refine (unadvising_latest reply distribution).bind fun found => ?_
  cases found with
  | none => exact shows_pure false
  | some version =>
    have htake : (text "\n[yellow]New version available! " ++ current ++ text " -> " ++ version ++
      text "[/yellow]").take 3 = text "\n[y" := rfl
    have hnews : text "\n[y" ∉ adviceBeginnings := by decide
    dsimp only
    split
    · exact shows_pure false
    · exact (shows_display (unadvising_line (htake ▸ hnews))).bind fun _ =>
        (shows_display (unadvising_bracket _)).bind fun _ => shows_pure true

theorem unadvising_tools (minNodeMajor : Int) :
    Shows Unadvising (Toolchain.check minNodeMajor) :=
  (compositional_shows Unadvising).check minNodeMajor

theorem unadvising_askChoice (responses : List Response) :
    Shows Unadvising (askChoice responses) :=
  (compositional_shows Unadvising).askChoice unadvising_ask (fun _ => unadvising_bracket _)
    responses

theorem unadvising_create (settings : ScaffoldSettings) (directory : Path) (tpl : Template)
    (name : Text) : Shows Unadvising (Project.create settings directory tpl name) :=
  (compositional_shows Unadvising).create unadvising_status (fun _ => unadvising_bracket _)
    settings directory tpl name

end CreateProgram

end AgentWorkshop
