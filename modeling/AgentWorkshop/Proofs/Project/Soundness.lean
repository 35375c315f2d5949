import AgentWorkshop.Proofs.Project.Advice
import AgentWorkshop.Proofs.Project.Choice
import AgentWorkshop.Proofs.Project.Course
import AgentWorkshop.Proofs.Project.Tools
import AgentWorkshop.Proofs.Project.Update

/-!
# What an ending without a status means

`wasp create` ends normally exactly if it came to its end: the tools were asked for and found, a
name and a template were chosen, the project was furnished and set up. `prepare` is all of that,
and `prepare_course` tells where it can stop, whatever the processes do. Before all tools are found
nothing but tools is started and no file is touched but by them, and what to do next is said
after all of it or not at all (`create_sound`). What it takes to come to the end can be told from
what the program finds (`Ready`).
-/

namespace AgentWorkshop

open AgentWorkshop.Action

namespace Project

variable {name : Text}

/-- **Making a project furnishes it or breaks off**, and then sets it up or breaks off. -/
theorem create_course (haccepts : ProjectName.accepts name = true) (settings : ScaffoldSettings)
    (directory : Path) (tpl : Template) (w : Workshop) (shown : List Event) :
    ((∀ t, ¬ Furnished settings w.directory (settings.templateDir.child tpl.directory)
        (directory.child name) name w.files t) ∧
      ∃ f t shown', create settings directory tpl name { w with shown := shown } =
        .error f { w with files := t, shown := shown' }) ∨
    ∃ t, Furnished settings w.directory (settings.templateDir.child tpl.directory)
        (directory.child name) name w.files t ∧
      ((Workshop.Succeeds { w with files := t }
          (commands settings directory (directory.child name)) ∧
        ∃ shown', create settings directory tpl name { w with shown := shown } =
          .ok (directory.child name) { Workshop.ran { w with files := t }
            (commands settings directory (directory.child name)) with shown := shown' }) ∨
      (¬ Workshop.Succeeds { w with files := t }
          (commands settings directory (directory.child name)) ∧
        ∃ f requests shown',
          requests <+: commands settings directory (directory.child name) ∧
          create settings directory tpl name { w with shown := shown } =
            .error f { Workshop.ran { w with files := t } requests with shown := shown' })) := by
  rw [create_of_accepts haccepts]
  rcases furnish_cases settings (settings.templateDir.child tpl.directory) (directory.child name)
    name { w with shown := shown } with ⟨t, hfurnished⟩ | ⟨f, t, shown', hfails⟩
  swap
  · rw [Step.bind_error hfails]
    refine .inl ⟨fun t' hfurnished => ?_, f, t, shown', rfl⟩
    obtain ⟨shown'', hfurnish⟩ :=
      furnish_of_furnished (w := { w with shown := shown }) hfurnished
    rw [hfails] at hfurnish
    cases hfurnish
  refine .inr ⟨t, hfurnished, ?_⟩
  obtain ⟨shown', hfurnish⟩ := furnish_of_furnished (w := { w with shown := shown }) hfurnished
  have hran := Workshop.ran_shown { w with files := t } shown'
  rw [Step.bind_ok hfurnish, setUp]
  rcases perform_cases (setUpSteps settings directory (directory.child name))
    { w with files := t, shown := shown' } with
    ⟨hsucceeds, shown'', hperform⟩ | ⟨hfails, f, requests, shown'', hrequests, hperform⟩
  · rw [hran] at hperform
    rw [Step.bind_ok hperform]
    exact .inl ⟨hsucceeds, _, rfl⟩
  · rw [hran] at hperform
    rw [Step.bind_error hperform]
    exact .inr ⟨hfails, f, requests, shown'', hrequests, rfl⟩

end Project

namespace Release

theorem latest_cases (reply : Reply) (distribution : Text) (w : Workshop) :
    (∃ found shown, latest reply distribution w = .ok found { w with shown := shown }) ∨
    ∃ f shown, latest reply distribution w = .error f { w with shown := shown } := by
  rw [latest, Step.bind_ok (display_apply _ _), Step.bind_ok (display_apply _ _)]
  cases addressFault? (address distribution) with
  | some f => exact .inr ⟨f, _, rfl⟩
  | none =>
    cases versionIn reply with
    | error f => exact .inr ⟨f, _, rfl⟩
    | ok found => exact .inl ⟨found, _, rfl⟩

/-- The look for a newer release starts nothing and touches no file. -/
theorem check_cases (reply : Reply) (current distribution : Text) (w : Workshop) :
    (∃ b shown, check reply current distribution w = .ok b { w with shown := shown }) ∨
    ∃ f shown, check reply current distribution w = .error f { w with shown := shown } := by
  rw [check]
  rcases latest_cases reply distribution w with ⟨found, shown, hlatest⟩ | ⟨f, shown, hlatest⟩
  swap
  · rw [Step.bind_error hlatest]
    exact .inr ⟨f, shown, rfl⟩
  rw [Step.bind_ok hlatest]
  cases found with
  | none => exact .inl ⟨false, shown, rfl⟩
  | some version =>
    dsimp only
    split
    · exact .inl ⟨false, shown, rfl⟩
    · rw [Step.bind_ok (print_apply _ _), Step.bind_ok (print_apply _ _)]
      exact .inl ⟨true, _, rfl⟩

end Release

namespace CreateProgram

variable {settings : ScaffoldSettings} {reply : Reply} {responses : List Response}
variable {w : Workshop}

/-! ## All but the advice -/

/-- The look for a newer release, where it is wanted. -/
def look (settings : ScaffoldSettings) (reply : Reply) : Action Unit :=
  if settings.checkUpdates then do
    let _ ← Release.check reply Release.present settings.distribution
  else pure ()

/-- Everything that comes before the advice; the answer is the project's name. -/
def prepare (settings : ScaffoldSettings) (reply : Reply) (responses : List Response) :
    Action Text := do
  look settings reply
  Action.display (Notice.header (text "UOMI Agent Development Environment Setup")
    (text "wasp " ++ Release.present))
  Action.display (.status (text "Checking prerequisites..."))
  Toolchain.check settings.minNodeMajor
  Action.display (Notice.success (text "Prerequisites met!"))
  let choice ← askChoice responses
  let _ ← Project.create settings (← get).here choice.template choice.name
  return choice.name

/-- The advice is what comes last. -/
theorem createProject_eq (settings : ScaffoldSettings) (reply : Reply)
    (responses : List Response) :
    createProject settings reply responses =
      prepare settings reply responses >>= fun name => Action.displayAll (advice name) := by
  rw [createProject, prepare, look]
  split
  · simp only [bind_assoc, pure_bind]
    rfl
  · simp only [bind_assoc, pure_bind]
    rfl

/-- **On the way nothing is said of what to do next.** -/
theorem unadvising_prepare (settings : ScaffoldSettings) (reply : Reply)
    (responses : List Response) : Shows Unadvising (prepare settings reply responses) := by
  have hlook : Shows Unadvising (look settings reply) := by
    rw [look]
    split
    · exact (unadvising_check _ _ _).bind fun _ => shows_pure ()
    · exact shows_pure ()
  have hheader (title subtitle : Text) : Unadvising (Notice.header title subtitle) :=
    unadvising_of_ne fun _ h => nomatch h
  refine hlook.bind fun _ => (shows_display (hheader _ _)).bind fun _ => ?_
  refine (shows_display (unadvising_status _)).bind fun _ => ?_
  refine (unadvising_tools _).bind fun _ => ?_
  refine (shows_display (unadvising_bracket _)).bind fun _ => ?_
  refine (unadvising_askChoice _).bind fun choice => shows_get.bind fun v => ?_
  exact (unadvising_create _ _ _ _).bind fun _ => shows_pure _

theorem look_cases (settings : ScaffoldSettings) (reply : Reply) (w : Workshop) :
    (∃ shown, look settings reply w = .ok () { w with shown := shown }) ∨
    ∃ f shown, look settings reply w = .error f { w with shown := shown } := by
  rw [look]
  split
  swap
  · exact .inl ⟨w.shown, rfl⟩
  rcases Release.check_cases reply Release.present settings.distribution w with
    ⟨b, shown, hcheck⟩ | ⟨f, shown, hcheck⟩
  · rw [Step.bind_ok hcheck]
    exact .inl ⟨shown, rfl⟩
  · rw [Step.bind_error hcheck]
    exact .inr ⟨f, shown, rfl⟩

/-! ## Where it can stop -/

/-- The workshop once the tools were asked and a project was furnished. -/
def furnishedOf (w : Workshop) (t : FileTree) : Workshop :=
  { w.ran Toolchain.probes with files := t }

/-- The project that was chosen is furnished after the tools were asked. -/
def FurnishedAs (settings : ScaffoldSettings) (w : Workshop) (choice : ProjectChoice)
    (t : FileTree) : Prop :=
  Project.Furnished settings w.directory (settings.templateDir.child choice.template.directory)
    (w.here.child choice.name) choice.name (w.ran Toolchain.probes).files t

/-- The requests of the set-up of a project of this name. -/
def commandsOf (settings : ScaffoldSettings) (w : Workshop) (name : Text) : List Invocation :=
  Project.commands settings w.here (w.here.child name)

/-- **What can come of it all but the advice**, whatever the processes do. -/
inductive Course (settings : ScaffoldSettings) (reply : Reply) (responses : List Response)
    (w : Workshop) : EStateM.Result Failure Workshop Text → Prop
  /-- A tool is not there, or no tool was asked after the look had failed. -/
  | unequipped {f : Failure} {asked : List Invocation} {shown : List Event}
    (hasked : asked <+: Toolchain.probes)
    (hlacks : ¬ Toolchain.Equipped settings.minNodeMajor w ∨
      asked = [] ∧ ∀ v, look settings reply w ≠ .ok () v) :
    Course settings reply responses w (.error f { w.ran asked with shown := shown })
  /-- Nothing was chosen, or it was not furnished. -/
  | unfurnished {f : Failure} {t : FileTree} {shown : List Event}
    (hequipped : Toolchain.Equipped settings.minNodeMajor w)
    (hnone : ∀ choice t, Chooses responses choice → ¬ FurnishedAs settings w choice t) :
    Course settings reply responses w
      (.error f { w.ran Toolchain.probes with files := t, shown := shown })
  /-- A command of the set-up did not succeed. -/
  | unfinished {f : Failure} {choice : ProjectChoice} {t : FileTree}
    {requests : List Invocation} {shown : List Event}
    (hequipped : Toolchain.Equipped settings.minNodeMajor w)
    (hchooses : Chooses responses choice)
    (hfurnished : FurnishedAs settings w choice t)
    (hfails : ¬ (furnishedOf w t).Succeeds (commandsOf settings w choice.name))
    (hrequests : requests <+: commandsOf settings w choice.name) :
    Course settings reply responses w
      (.error f { (furnishedOf w t).ran requests with shown := shown })
  | finished {choice : ProjectChoice} {t : FileTree} {shown : List Event}
    (hequipped : Toolchain.Equipped settings.minNodeMajor w)
    (hchooses : Chooses responses choice)
    (hfurnished : FurnishedAs settings w choice t)
    (hsucceeds : (furnishedOf w t).Succeeds (commandsOf settings w choice.name)) :
    Course settings reply responses w (.ok choice.name
      { (furnishedOf w t).ran (commandsOf settings w choice.name) with shown := shown })

/-- **All but the advice stops in one of these places or comes to its end.** -/
theorem prepare_course (settings : ScaffoldSettings) (reply : Reply)
    (responses : List Response) (w : Workshop) :
    Course settings reply responses w (prepare settings reply responses w) := by
  rw [prepare]
  rcases look_cases settings reply w with ⟨shown, hlook⟩ | ⟨f, shown, hlook⟩
  swap
  · -- No tool was asked by then.
    have hfails : ∀ v, look settings reply w ≠ .ok () v := by
      rintro v hv
      rw [hlook] at hv
      cases hv
    rw [Step.bind_error hlook]
    exact .unequipped List.nil_prefix (.inr ⟨rfl, hfails⟩)
  rw [Step.bind_ok hlook, Step.bind_ok (display_apply _ _), Step.bind_ok (display_apply _ _)]
  rcases Toolchain.check_cases settings.minNodeMajor { w with shown := _ } with
    ⟨hequipped, hcheck⟩ | ⟨hlacks, f, asked, hasked, hcheck⟩
  swap
  · rw [Step.bind_error hcheck, Workshop.ran_shown]
    exact .unequipped hasked (.inl (mt Toolchain.equipped_shown.2 hlacks))
  -- From here on all tools are found, whatever else fails.
  rw [Toolchain.equipped_shown] at hequipped
  rw [Step.bind_ok hcheck, Workshop.ran_shown, Step.bind_ok (display_apply _ _)]
  rcases askChoice_cases responses { w.ran Toolchain.probes with shown := _ } with
    ⟨choice, shown', hchooses, hask⟩ | ⟨hnone, f, shown', hask⟩
  swap
  · rw [Step.bind_error hask]
    exact .unfurnished hequipped fun choice _ hchooses => absurd hchooses (hnone choice)
  rw [Step.bind_ok hask, Step.bind_ok (Step.get_apply _)]
  have hhere : Workshop.here { w.ran Toolchain.probes with shown := shown' } = w.here :=
    congrArg (Path.mk .top) (Workshop.ran_directory w _)
  rw [hhere]
  have haccepts : ProjectName.accepts choice.name = true := by
    obtain ⟨_, _, _, hnames, -⟩ := hchooses
    exact hnames.accepts
  rcases Project.create_course haccepts settings w.here choice.template
    (w.ran Toolchain.probes) shown' with ⟨hnone, f, t, shown'', hcreate⟩ | ⟨t, hfurnished, h⟩
  · rw [Step.bind_error hcreate]
    refine .unfurnished hequipped fun choice' t' hchooses' hfurnished => ?_
    cases hchooses.unique hchooses'
    rw [FurnishedAs, ← Workshop.ran_directory w Toolchain.probes] at hfurnished
    exact hnone t' hfurnished
  have hfurnishedAs : FurnishedAs settings w choice t := by
    rw [FurnishedAs, ← Workshop.ran_directory w Toolchain.probes]
    exact hfurnished
  rcases h with ⟨hsucceeds, shown'', hcreate⟩ | ⟨hfails, f, requests, shown'', hrequests, hcreate⟩
  · rw [Step.bind_ok hcreate]
    exact .finished hequipped hchooses hfurnishedAs hsucceeds
  · rw [Step.bind_error hcreate]
    exact .unfinished hequipped hchooses hfurnishedAs hfails hrequests

/-! ## The program -/

/-- **All tools were found**: they were asked one after the other, before anything else was
started, and are there. -/
structure FindsTools (settings : ScaffoldSettings) (w w' : Workshop) : Prop where
  asked : (w.ran Toolchain.probes).launches <+: w'.launches
  equipped : Toolchain.Equipped settings.minNodeMajor w

/-- **The project was made**: it was furnished, then every command of its set-up was run and
succeeded, and nothing else came to pass. -/
def Makes (settings : ScaffoldSettings) (w : Workshop) (choice : ProjectChoice)
    (w' : Workshop) : Prop :=
  ∃ t, FurnishedAs settings w choice t ∧
    (furnishedOf w t).Succeeds (commandsOf settings w choice.name) ∧
    w' = { (furnishedOf w t).ran (commandsOf settings w choice.name) with shown := w'.shown }

variable {w' : Workshop} {f : Failure} {name : Text}
variable {choice : ProjectChoice} {t : FileTree}

/-- **All that it takes**, told from what the program finds: a look for a newer release that does
not fail, the tools, and responses that choose a project that can be furnished and set up. -/
structure Ready (settings : ScaffoldSettings) (reply : Reply) (responses : List Response)
    (w : Workshop) : Prop where
  looks : ∃ v, look settings reply w = .ok () v
  equipped : Toolchain.Equipped settings.minNodeMajor w
  makes : ∃ choice t, Chooses responses choice ∧ FurnishedAs settings w choice t ∧
    (furnishedOf w t).Succeeds (commandsOf settings w choice.name)

/-- A project is furnished in one way. -/
theorem FurnishedAs.unique {t' : FileTree} (h : FurnishedAs settings w choice t)
    (h' : FurnishedAs settings w choice t') : t = t' := by
  rw [FurnishedAs, ← Workshop.ran_directory w Toolchain.probes] at h h'
  obtain ⟨shown, hfurnish⟩ := Project.furnish_of_furnished h
  obtain ⟨shown', hfurnish'⟩ := Project.furnish_of_furnished h'
  rw [hfurnish] at hfurnish'
  cases hfurnish'
  rfl

theorem finds_of_ran (hequipped : Toolchain.Equipped settings.minNodeMajor w) (t : FileTree)
    (requests : List Invocation) (shown : List Event) :
    FindsTools settings w { (furnishedOf w t).ran requests with shown := shown } :=
  ⟨(furnishedOf w t).launches_prefix_ran requests, hequipped⟩

/-- **Either all tools were found, or nothing but tools was started** and no file was touched
but by them. -/
theorem Course.finds_or_asked (h : Course settings reply responses w (.error f w'))
    (shown : List Event) : FindsTools settings w { w' with shown := shown } ∨
      ∃ asked, asked <+: Toolchain.probes ∧ w' = { w.ran asked with shown := w'.shown } := by
  cases h with
  | unequipped hasked _ => exact .inr ⟨_, hasked, rfl⟩
  | unfurnished hequipped _ => exact .inl ⟨List.prefix_rfl, hequipped⟩
  | unfinished hequipped _ _ _ _ => exact .inl (finds_of_ran hequipped _ _ shown)

/-- What stops early makes nothing, even if all tools were found. -/
theorem Course.not_makes (h : Course settings reply responses w (.error f w')) {shown : List Event}
    (hfinds : FindsTools settings w { w' with shown := shown })
    (hchooses : Chooses responses choice) :
    ¬ Makes settings w choice { w' with shown := shown } := by
  rintro ⟨t, hfurnished, hsucceeds, hw'⟩
  cases h with
  | unequipped _ hlacks =>
    rcases hlacks with hlacks | ⟨rfl, -⟩
    · exact hlacks hfinds.equipped
    · -- No tool was asked, and there are three.
      have hlength := hfinds.asked.length_le
      simp only [Workshop.ran_launches_length] at hlength
      have hthree : Toolchain.probes.length = 3 := rfl
      have hzero : ([] : List Invocation).length = 0 := rfl
      omega
  | unfurnished _ hnone => exact hnone choice t hchooses hfurnished
  | unfinished _ hchooses' hfurnished' hfails _ =>
    cases hchooses.unique hchooses'
    cases hfurnished.unique hfurnished'
    exact hfails hsucceeds

/-- The title of the advice is no line of a report. -/
theorem adviceTitle_not_mem_report (debug : Bool) (f : Failure) :
    adviceTitle ∉ report debug f := by
  have hnotice (rest : Text) : adviceTitle ≠ .line ('[' :: rest) :=
    (unadvising_bracket rest).ne_title
  have hremedies (remedies : List Text) : adviceTitle ∉ remedyLines remedies := by
    rw [remedyLines, List.mem_map]
    rintro ⟨⟨remedy, n⟩, -, h⟩
    have hhead : some (' ' : CodePoint) = some '\n' := congrArg List.head? (Event.line.inj h)
    exact absurd hhead (by decide)
  have hother : adviceTitle ∉ if f.isForeseen then
      [Notice.error (text "Error setting up project"), Notice.error f.message]
      else Notice.unhandled f debug := by
    split
    · rw [List.mem_cons, List.mem_singleton, not_or]
      exact ⟨hnotice _, hnotice _⟩
    · rw [Notice.unhandled, List.mem_cons, not_or]
      refine ⟨hnotice _, ?_⟩
      split
      · rintro (_ | ⟨_, ⟨⟩⟩)
      · exact List.not_mem_nil
  cases f with
  | tool fault remedies =>
    rw [report, List.mem_cons, List.mem_cons, not_or, not_or]
    exact ⟨hnotice _, hnotice _, hremedies remedies⟩
  | interrupted =>
    rw [report, List.mem_singleton]
    exact hnotice _
  | _ => exact hother

theorem start_of_ne {arguments : List Text} (h : arguments ≠ [text "create"])
    (env : Environment) (reply : Reply) (responses : List Response) (w : Workshop) :
    start env arguments reply responses w =
      .ok (some 1) { w with shown := w.shown ++ [.line usage] } := by
  rw [start, if_pos h]
  rfl

theorem start_of_prepare_error (env : Environment)
    (h : prepare (Settings.ofEnvironment env).scaffold reply responses w = .error f w') :
    start env [text "create"] reply responses w = .ok (some 1)
      { w' with shown := w'.shown ++ report (Settings.ofEnvironment env).debug f } := by
  rw [start_create, createProject_eq, Step.bind_error h, close]

theorem start_of_prepare_ok (env : Environment)
    (h : prepare (Settings.ofEnvironment env).scaffold reply responses w = .ok name w') :
    start env [text "create"] reply responses w =
      .ok none { w' with shown := w'.shown ++ advice name } := by
  rw [start_create, createProject_eq, Step.bind_ok h, displayAll_apply, close]

/-- What stops early lacks something. -/
theorem Course.not_ready (h : Course settings reply responses w (.error f w')) :
    ¬ Ready settings reply responses w := by
  rintro ⟨⟨v, hlook⟩, hequipped, choice, t, hchooses, hfurnished, hsucceeds⟩
  cases h with
  | unequipped _ hlacks =>
    rcases hlacks with hlacks | ⟨-, hfails⟩
    · exact hlacks hequipped
    · exact hfails v hlook
  | unfurnished _ hnone => exact hnone choice t hchooses hfurnished
  | unfinished _ hchooses' hfurnished' hfails _ =>
    cases hchooses.unique hchooses'
    cases hfurnished.unique hfurnished'
    exact hfails hsucceeds

/-- What comes to its end had all that it takes. -/
theorem ready_of_prepare (h : prepare settings reply responses w = .ok name w') :
    Ready settings reply responses w := by
  have hcourse := prepare_course settings reply responses w
  rw [h] at hcourse
  have hlook : ∃ v, look settings reply w = .ok () v := by
    rcases look_cases settings reply w with ⟨shown, hlook⟩ | ⟨f, shown, hlook⟩
    · exact ⟨_, hlook⟩
    · rw [prepare, Step.bind_error hlook] at h
      cases h
  cases hcourse with
  | finished hequipped hchooses hfurnished hsucceeds =>
    exact ⟨hlook, hequipped, _, _, hchooses, hfurnished, hsucceeds⟩

/-- **Ending normally means that everything was done.** For all arguments, settings, replies,
responses and processes the program ends, and either normally or with status 1:

* it ends normally exactly if it was told to create, all tools were found, a name and a template
  were chosen and the project was made of them, and that is so exactly if it was told to create
  and found all that it takes;
* unless all tools were found, nothing but tools was started and no file touched but by them;
* what to do next is said at the end of a run that ends normally; in any other none of its lines
  is shown up to the report of the failure, and its title not there either. -/
theorem create_sound (env : Environment) (arguments : List Text) (reply : Reply)
    (responses : List Response) (w : Workshop) :
    ∃ status w', start env arguments reply responses w = .ok status w' ∧
      (status = none ∨ status = some 1) ∧
      (status = none ↔ arguments = [text "create"] ∧
        FindsTools (Settings.ofEnvironment env).scaffold w w' ∧ ∃ choice,
          Chooses responses choice ∧ Makes (Settings.ofEnvironment env).scaffold w choice w') ∧
      (status = none ↔ arguments = [text "create"] ∧
        Ready (Settings.ofEnvironment env).scaffold reply responses w) ∧
      (¬ FindsTools (Settings.ofEnvironment env).scaffold w w' → ∃ asked,
        asked <+: Toolchain.probes ∧ w' = { w.ran asked with shown := w'.shown }) ∧
      (status = none → ∃ choice told, Chooses responses choice ∧
        w'.shown = w.shown ++ told ++ advice choice.name ∧ ∀ e ∈ told, Unadvising e) ∧
      (status ≠ none → ∃ told reported, w'.shown = w.shown ++ told ++ reported ∧
        (∀ e ∈ told, Unadvising e) ∧ adviceTitle ∉ reported) := by
  by_cases hcreate : arguments = [text "create"]
  swap
  · -- The usage is shown and nothing else happens.
    refine ⟨some 1, _, start_of_ne hcreate env reply responses w, .inr rfl, ?_, ?_, ?_, ?_, ?_⟩
    · exact ⟨fun h => (nomatch h), fun h => absurd h.1 hcreate⟩
    · exact ⟨fun h => (nomatch h), fun h => absurd h.1 hcreate⟩
    · exact fun _ => ⟨[], List.nil_prefix, rfl⟩
    · exact fun h => nomatch h
    · have husage : Unadvising (.line usage) := unadvising_line (by decide)
      refine fun _ => ⟨[], [.line usage], by rw [List.append_nil], ?_, ?_⟩
      · exact fun e he => nomatch he
      · exact mt List.mem_singleton.1 husage.ne_title
  subst hcreate
  obtain ⟨told, htold, hunadvising⟩ := unadvising_prepare
    (Settings.ofEnvironment env).scaffold reply responses w
  have hcourse := prepare_course (Settings.ofEnvironment env).scaffold reply responses w
  cases hprepare : prepare (Settings.ofEnvironment env).scaffold reply responses w with
  | error f w' =>
    -- The report comes after everything else and starts nothing.
    rw [hprepare] at hcourse
    rw [after_error hprepare] at htold
    refine ⟨some 1, _, start_of_prepare_error env hprepare, .inr rfl, ?_, ?_, ?_, ?_, ?_⟩
    · refine ⟨fun h => (nomatch h), ?_⟩
      rintro ⟨-, hfinds, choice, hchooses, hmakes⟩
      exact absurd hmakes (hcourse.not_makes hfinds hchooses)
    · exact ⟨fun h => (nomatch h), fun h => absurd h.2 hcourse.not_ready⟩
    · intro hlacks
      obtain ⟨asked, hasked, hw'⟩ := (hcourse.finds_or_asked _).resolve_left hlacks
      refine ⟨asked, hasked, ?_⟩
      rw [hw']
    · exact fun h => nomatch h
    · exact fun _ => ⟨told, _, by rw [htold], hunadvising, adviceTitle_not_mem_report _ f⟩
  | ok name w' =>
    rw [hprepare] at hcourse
    rw [after_ok hprepare] at htold
    -- Of all courses only the finished one gives a name, and the advice cannot fail.
    cases hcourse with
    | finished hequipped hchooses hfurnished hsucceeds =>
      have hfinds := finds_of_ran hequipped
      refine ⟨none, _, start_of_prepare_ok env hprepare, .inl rfl, ?_, ?_, ?_, ?_, ?_⟩
      · exact ⟨fun _ => ⟨rfl, hfinds _ _ _, _, hchooses, _, hfurnished, hsucceeds, rfl⟩,
          fun _ => rfl⟩
      · exact ⟨fun _ => ⟨rfl, ready_of_prepare hprepare⟩, fun _ => rfl⟩
      · exact fun h => absurd (hfinds _ _ _) h
      · exact fun _ => ⟨_, told, hchooses, by rw [htold], hunadvising⟩
      · exact fun h => absurd rfl h

end CreateProgram

end AgentWorkshop
