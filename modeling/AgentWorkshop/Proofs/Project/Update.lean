import AgentWorkshop.Program.Create
import AgentWorkshop.Proofs.Json.Depth
import AgentWorkshop.Proofs.Past
import AgentWorkshop.Proofs.Project.Parts

/-!
# The look for a newer release stands aside

`wasp create` begins with a look for a newer release, unless that is switched off. What comes
after it does not look back (`begins_createProject`), so all that the look can change is what it
shows itself, as long as it does not fail (`start_of_read`). Of the replies that are no failure
of another kind it fails on exactly the documents that are nested too deep to be read
(`Release.versionIn_error`), and then nothing comes after it (`start_of_tooDeep`).
-/

namespace AgentWorkshop

open AgentWorkshop.Action

/-! ## The look -/

namespace Release

variable {reply : Reply} {current distribution : Text} {w : Workshop}

/-- The reply is a document nested too deep to be read. -/
def TooDeep (reply : Reply) (container : Json.Container) : Prop :=
  ∃ body, reply = .document 200 body ∧ Json.readDocument body = .error (.tooDeep container)

/-- The version that a reply tells, if it can be read. -/
def told? (reply : Reply) : Option Text :=
  (versionIn reply).toOption.join

/-- What the user is told about another version. -/
def news (current distribution version : Text) : List Event :=
  if version = current then [] else [
    .line (text "\n[yellow]New version available! " ++ current ++ text " -> " ++ version ++
      text "[/yellow]"),
    .line (text "[cyan]Run: pip install --upgrade " ++ distribution ++ text " to update[/cyan]\n")]

/-- What the look shows: a request, and the news if there are any. -/
def notice (reply : Reply) (current distribution : Text) : List Event :=
  .client patience :: .fetch (address distribution) ::
    ((told? reply).map (news current distribution)).getD []

/-- Nothing in a notice asks the user anything. -/
theorem notice_cases {e : Event} (he : e ∈ notice reply current distribution) :
    e = .client patience ∨ e = .fetch (address distribution) ∨ ∃ markup, e = .line markup := by
  rcases List.mem_cons.1 he with rfl | he
  · exact .inl rfl
  rcases List.mem_cons.1 he with rfl | he
  · exact .inr (.inl rfl)
  refine .inr (.inr ?_)
  cases hversion : told? reply with
  | none => simp [hversion] at he
  | some version =>
    rw [hversion, Option.map_some, Option.getD_some, news] at he
    split at he
    · cases he
    · rcases he with _ | ⟨_, _ | ⟨_, ⟨⟩⟩⟩ <;> exact ⟨_, rfl⟩

/-- **A reply that cannot be read is nested too deep**, or was no reply at all. -/
theorem versionIn_error {f : Failure} (h : versionIn reply = .error f) :
    reply = .fault (.other f) ∨ ∃ container, f = .tooDeep container ∧ TooDeep reply container := by
  match reply, h with
  | .fault (.other _), rfl => exact .inl rfl
  | .document status body, h =>
    -- Another status than 200 counts as no answer, and so does a body that is no JSON.
    rw [versionIn] at h
    split at h
    · cases h
    · rename_i hstatus
      rw [Decidable.not_not] at hstatus
      subst hstatus
      cases hread : Json.readDocument body with
      | ok v =>
        rw [hread] at h
        cases h
      | error e =>
        rw [hread] at h
        cases e with
        | malformed => cases h
        | tooDeep container =>
          cases h
          exact .inr ⟨container, rfl, body, rfl, hread⟩

theorem versionIn_of_tooDeep {container : Json.Container} (h : TooDeep reply container) :
    versionIn reply = .error (.tooDeep container) := by
  obtain ⟨body, rfl, hread⟩ := h
  rw [versionIn, if_neg fun hne => hne rfl, hread]

section
variable (hurl : addressFault? (address distribution) = none)
include hurl

theorem latest_apply : latest reply distribution w =
    let asked := { w with
      shown := w.shown ++ [.client patience, .fetch (address distribution)] }
    match versionIn reply with
    | .ok version => .ok version asked
    | .error f => .error f asked := by
  rw [latest, Step.bind_ok (display_apply _ _), Step.bind_ok (display_apply _ _), hurl]
  simp only [List.append_assoc, List.cons_append, List.nil_append]
  cases versionIn reply <;> rfl

/-- **A look that can read its reply shows its notice and nothing else.** -/
theorem check_apply (current : Text) {version : Option Text}
    (hversion : versionIn reply = .ok version) : ∃ b, check reply current distribution w =
    .ok b { w with shown := w.shown ++ notice reply current distribution } := by
  have htold : told? reply = version := by rw [told?, hversion]; rfl
  rw [check, Step.bind_apply, latest_apply hurl, hversion, notice, htold]
  cases version with
  | none => exact ⟨false, rfl⟩
  | some version =>
    simp only [Option.map_some, Option.getD_some, news]
    by_cases hsame : version = current
    · simp only [if_pos hsame]
      exact ⟨false, rfl⟩
    · simp only [if_neg hsame]
      rw [Step.bind_ok (print_apply _ _), Step.bind_ok (print_apply _ _)]
      simp only [List.append_assoc]
      exact ⟨true, rfl⟩

/-- And one that cannot fails after the request. -/
theorem check_of_tooDeep (current : Text) {container : Json.Container}
    (h : TooDeep reply container) :
    check reply current distribution w = .error (.tooDeep container)
      { w with shown := w.shown ++ [.client patience, .fetch (address distribution)] } := by
  rw [check, Step.bind_apply, latest_apply hurl, versionIn_of_tooDeep h]

end

end Release

/-! ## What comes after it -/

namespace Toolchain

theorem begins_version (tool : String) : Begins (probe tool) (version tool) := by
  refine (begins_launch _).bind fun outcome => ?_
  cases outcome with
  | exited code stdout stderr => exact .ite _ (oblivious_pure stdout) (oblivious_throw _)
  | failed f => cases f <;> exact oblivious_throw _

/-- **Node is asked first.** -/
theorem begins_check (minNodeMajor : Int) : Begins (probe "node") (check minNodeMajor) := by
  have hrest : Oblivious (do let _ ← version "rustc"; let _ ← version "cargo") :=
    (begins_version _).oblivious.bind fun _ => (begins_version _).oblivious.bind fun _ =>
      oblivious_pure ()
  refine (begins_version "node").bind fun output => ?_
  cases nodeMajor? output with
  | error f => exact (oblivious_throw f).bind fun _ => hrest
  | ok major => exact .ite _ ((oblivious_throw _).bind fun _ => hrest) hrest

end Toolchain

namespace CreateProgram

/-- Not to look back is a property of that kind, whatever is shown. -/
theorem compositional_oblivious :
    Compositional (fun _ => True) fun _ act => act.Oblivious where
  pure := oblivious_pure
  throw := oblivious_throw
  display := fun _ => oblivious_display _
  onFiles := oblivious_onFiles
  launch := oblivious_launch
  bind := fun h hnext => h.bind hnext
  attempt := fun h => h.attempt

variable {settings : ScaffoldSettings} {reply : Reply} {responses : List Response}
variable {env : Environment} {w : Workshop}

/-- **Without the look, the first thing to be started is Node**, and nothing depends on what
happened before. -/
theorem begins_createProject (settings : ScaffoldSettings) (h : settings.checkUpdates = false)
    (reply : Reply) (responses : List Response) :
    Begins (Toolchain.probe "node") (createProject settings reply responses) := by
  rw [createProject, h, if_neg Bool.false_ne_true]
  refine .display_bind (.display_bind ((Toolchain.begins_check _).bind fun _ => ?_) _) _
  have hchoice : (askChoice responses).Oblivious :=
    compositional_oblivious.askChoice (fun _ _ _ => trivial) (fun _ => trivial) responses
  have hcreate (directory : Path) (template : Template) (name : Text) :
      (Project.create settings directory template name).Oblivious :=
    compositional_oblivious.create (fun _ => trivial) (fun _ => trivial) settings directory
      template name
  refine (oblivious_display _).bind fun _ => hchoice.bind fun choice => ?_
  refine oblivious_get (fun _ _ => rfl) fun v => (hcreate _ _ _).bind fun _ => ?_
  exact (oblivious_print _).bind fun _ => (oblivious_print _).bind fun _ =>
    (oblivious_print _).bind fun _ => oblivious_print _

/-- The settings without the look. -/
def unasked (settings : ScaffoldSettings) : ScaffoldSettings :=
  { settings with checkUpdates := false }

/-- With the look, the rest is what is done without it. -/
theorem createProject_of_checks (h : settings.checkUpdates = true) :
    createProject settings reply responses = (do
      let _ ← Release.check reply Release.present settings.distribution
      createProject (unasked settings) reply responses) := by
  rw [createProject, if_pos h]
  rfl

/-! ## The program -/

/-- The environment with the look switched off. -/
def quiet (env : Environment) : Environment :=
  (text "WASP_NO_UPDATE_CHECK", text "1") :: env

theorem lookup_quiet {name : Text} (h : name ≠ text "WASP_NO_UPDATE_CHECK") (env : Environment) :
    (quiet env).lookup name = env.lookup name := by
  rw [quiet, List.lookup_cons, beq_eq_false_iff_ne.2 h]

/-- It switches off the look and nothing else. -/
theorem scaffold_quiet (env : Environment) : (Settings.ofEnvironment (quiet env)).scaffold =
    unasked (Settings.ofEnvironment env).scaffold := by
  have htemplate : (quiet env).nonEmpty? (text "WASP_TEMPLATE_DIR") =
      env.nonEmpty? (text "WASP_TEMPLATE_DIR") := by
    rw [Environment.nonEmpty?, Environment.nonEmpty?, lookup_quiet (by decide)]
  have hlook : (quiet env).isOn (text "WASP_NO_UPDATE_CHECK") = true := by
    rw [Environment.isOn, quiet, List.lookup_cons_self]
    decide
  simp only [Settings.ofEnvironment, ScaffoldSettings.ofEnvironment, unasked, htemplate, hlook,
    Bool.not_true]

theorem debug_quiet (env : Environment) :
    (Settings.ofEnvironment (quiet env)).debug = (Settings.ofEnvironment env).debug := by
  simp only [Settings.ofEnvironment, Environment.isOn]
  rw [lookup_quiet (by decide)]

/-- What the program makes of how a project came out. -/
def close (debug : Bool) :
    EStateM.Result Failure Workshop Unit → EStateM.Result Failure Workshop (Option Nat)
  | .ok () w => .ok none w
  | .error f w => .ok (some 1) { w with shown := w.shown ++ report debug f }

theorem start_create : start env [text "create"] reply responses w =
    close (Settings.ofEnvironment env).debug
      (createProject (Settings.ofEnvironment env).scaffold reply responses w) := by
  rw [start, if_neg (by simp)]
  cases h : createProject (Settings.ofEnvironment env).scaffold reply responses w with
  | ok _ v =>
    rw [Step.bind_ok (attempt_ok h)]
    rfl
  | error f v =>
    rw [Step.bind_ok (attempt_error h)]
    dsimp only
    rw [Step.bind_ok (displayAll_apply _ _)]
    rfl

/-- What was shown before stays in front of what the program shows, and changes nothing else. -/
theorem close_of_shown {act : Action Unit} (hact : act.Oblivious) (debug : Bool) (w : Workshop)
    (notice : List Event) : ∃ status, ∃ v : Workshop, ∃ new,
      close debug (act w) = .ok status { v with shown := w.shown ++ new } ∧
      close debug (act { w with shown := w.shown ++ notice }) =
        .ok status { v with shown := w.shown ++ notice ++ new } := by
  have hshown := hact.shown_after w
  cases h : act w with
  | ok _ v =>
    rw [after_ok h] at hshown
    rw [hact.of_shown, h]
    refine ⟨none, v, act.shows w, ?_, rfl⟩
    rw [← hshown]
    rfl
  | error f v =>
    rw [after_error h] at hshown
    rw [hact.of_shown, h]
    refine ⟨some 1, v, act.shows w ++ report debug f, ?_, ?_⟩
    · rw [← List.append_assoc, ← hshown]
      rfl
    · rw [← List.append_assoc]
      rfl

/-- Without the look the program always ends, and it starts Node. -/
theorem start_quiet (env : Environment) (reply : Reply) (responses : List Response)
    (w : Workshop) : ∃ status v l,
      start (quiet env) [text "create"] reply responses w = .ok status v ∧
      w.launches ++ [l] <+: v.launches ∧ l.invocation = Toolchain.probe "node" := by
  rw [start_create, scaffold_quiet]
  obtain ⟨l, hlaunches, hl⟩ :=
    (begins_createProject (unasked (Settings.ofEnvironment env).scaffold) rfl reply
      responses).launches w
  cases h : createProject (unasked (Settings.ofEnvironment env).scaffold) reply responses w with
  | ok _ v =>
    rw [after_ok h] at hlaunches
    exact ⟨_, _, l, rfl, hlaunches, hl⟩
  | error f v =>
    rw [after_error h] at hlaunches
    exact ⟨_, _, l, rfl, hlaunches, hl⟩

/-- The usual address is one to ask at. -/
theorem addressFault?_usual :
    Release.addressFault? (Release.address ScaffoldSettings.usual.distribution) = none := by
  decide

section
variable (henabled : env.isOn (text "WASP_NO_UPDATE_CHECK") = false)
include henabled

theorem checkUpdates_of_enabled : (Settings.ofEnvironment env).scaffold.checkUpdates = true := by
  simp only [Settings.ofEnvironment, ScaffoldSettings.ofEnvironment, henabled, Bool.not_false]

/-- **After a look that can read its reply the program goes on as without it.** -/
theorem start_of_read {version : Option Text} (hversion : Release.versionIn reply = .ok version) :
    ∃ status, ∃ v : Workshop, ∃ new,
      start (quiet env) [text "create"] reply responses w =
        .ok status { v with shown := w.shown ++ new } ∧
      start env [text "create"] reply responses w =
        .ok status { v with
          shown := w.shown ++
            Release.notice reply Release.present ScaffoldSettings.usual.distribution ++ new } := by
  have hbegins := begins_createProject (unasked (Settings.ofEnvironment env).scaffold) rfl reply
    responses
  obtain ⟨b, hcheck⟩ := Release.check_apply (w := w) addressFault?_usual Release.present hversion
  have hlook : Release.check reply Release.present
      (Settings.ofEnvironment env).scaffold.distribution w = _ := hcheck
  rw [start_create, start_create, scaffold_quiet, debug_quiet,
    createProject_of_checks (checkUpdates_of_enabled henabled), Step.bind_ok hlook]
  exact close_of_shown hbegins.oblivious _ w _

/-- **A reply nested too deep ends the program** before anything is done. -/
theorem start_of_tooDeep {container : Json.Container} (h : Release.TooDeep reply container) :
    start env [text "create"] reply responses w = .ok (some 1) { w with
      shown := w.shown ++ [.client Release.patience,
        .fetch (Release.address ScaffoldSettings.usual.distribution)] ++
        report (Settings.ofEnvironment env).debug (.tooDeep container) } := by
  have hcheck := Release.check_of_tooDeep (w := w) addressFault?_usual Release.present h
  rw [start_create, createProject_of_checks (checkUpdates_of_enabled henabled)]
  have hlook : Release.check reply Release.present
      (Settings.ofEnvironment env).scaffold.distribution w = _ := hcheck
  rw [Step.bind_error hlook]
  rfl

end

/-- An empty directory, in which no tool says anything. -/
def mute : Workshop :=
  .initial .empty [] fun _ => Runner.idle

end CreateProgram

end AgentWorkshop
