import AgentWorkshop.Project.Create
import AgentWorkshop.Proofs.Action
import AgentWorkshop.Proofs.Files.Directories

/-!
# Furnishing a project

Before anything is set up a project is furnished: its directory is made anew, the template
and its `.gitignore` are copied and the manifest is rewritten (`Furnished`). Whatever comes
before the set-up either does all of this or fails (`furnish_cases`), and no process has a
part in it (`furnish_of_furnished`).
-/

namespace AgentWorkshop

namespace Project

/-- **A furnished project**: its directory is made, and was not there before; the template is
found and copied without a fault, then its `.gitignore`; and the manifest is read and
written with the project's name. -/
inductive Furnished (settings : ScaffoldSettings) (here : Address) (template project : Path)
    (name : Text) (t : FileTree) : FileTree → Prop
  | intro {made copied ignoring furnished : FileTree} {manifest : Text}
    (hmade : Files.makeDirectories false here project t = .ok () made)
    (hfound : Files.isDirectory here template made = .ok true made)
    (hcopied : copyAll settings template project here made = .ok [] copied)
    (hignoring : Files.copyFile here (template.child settings.gitignoreSource)
      (project.child (text ".gitignore")) copied = .ok (.ok ()) ignoring)
    (hread : Files.readText here (manifestPath settings project) ignoring =
      .ok manifest ignoring)
    (hwritten : Files.writeText here (manifestPath settings project)
      (Text.replaceFirst settings.placeholder name manifest) ignoring = .ok () furnished) :
    Furnished settings here template project name t furnished

variable {settings : ScaffoldSettings} {here : Address} {template project : Path}
variable {name : Text} {w : Workshop} {t t' copied : FileTree}

/-- An action fails, after it changed nothing but files and what is shown. -/
def FailsEarly {α : Type} (act : Action α) (w : Workshop) : Prop :=
  ∃ f t shown, act w = .error f { w with files := t, shown := shown }

/-! ## The directory -/

theorem makeDirectory_ok (h : Files.makeDirectories false w.directory project w.files = .ok () t) :
    makeDirectory project w = .ok () { w with files := t } := by
  simp only [makeDirectory, Step.bind_apply, Action.attempt, Action.onFiles, h]
  rfl

theorem makeDirectory_cases (project : Path) (w : Workshop) :
    (∃ t, Files.makeDirectories false w.directory project w.files = .ok () t) ∨
    FailsEarly (makeDirectory project) w := by
  cases h : Files.makeDirectories false w.directory project w.files with
  | ok u t => exact .inl ⟨t, rfl⟩
  | error f t =>
    refine .inr ?_
    simp only [FailsEarly, makeDirectory, Step.bind_apply, Action.attempt, Action.onFiles, h]
    cases f with
    | system e =>
      dsimp only
      split <;> exact ⟨_, t, _, rfl⟩
    | _ => exact ⟨_, t, _, rfl⟩

/-! ## The template -/

/-- The template and its `.gitignore` on their way into a project. -/
def transfer (settings : ScaffoldSettings) (template project : Path) (here : Address) :
    FileAction (Except CopyFault Unit) := do
  let faults ← copyAll settings template project here
  if !faults.isEmpty then return .error (.entries faults)
  Files.copyFile here (template.child settings.gitignoreSource) (project.child (text ".gitignore"))

/-- The `.gitignore` follows a template that was copied without a fault. -/
theorem transfer_apply : transfer settings template project here t =
    match copyAll settings template project here t with
    | .error f t => .error f t
    | .ok [] t => Files.copyFile here (template.child settings.gitignoreSource)
        (project.child (text ".gitignore")) t
    | .ok faults t => .ok (.error (.entries faults)) t := by
  rw [transfer, Step.bind_apply]
  rcases copyAll settings template project here t with ⟨_ | _, t⟩ | ⟨f, t⟩ <;> rfl

theorem transfer_ok_iff : transfer settings template project here t = .ok (.ok ()) t' ↔
    ∃ copied, copyAll settings template project here t = .ok [] copied ∧
      Files.copyFile here (template.child settings.gitignoreSource)
        (project.child (text ".gitignore")) copied = .ok (.ok ()) t' := by
  rw [transfer_apply]
  constructor
  · intro h
    rcases hcopied : copyAll settings template project here t with
      ⟨_ | ⟨fault, faults⟩, copied⟩ | ⟨f, copied⟩ <;> rw [hcopied] at h
    · exact ⟨copied, rfl, h⟩
    · cases h
    · cases h
  · rintro ⟨copied, hcopied, hignoring⟩
    rw [hcopied]
    exact hignoring

/-- The template is looked for before anything of it is copied. -/
theorem copyTemplate_apply (settings : ScaffoldSettings) (template project : Path) (w : Workshop) :
    copyTemplate settings template project w =
      match Files.isDirectory w.directory template w.files with
      | .error f t => .error f { w with files := t }
      | .ok false t => .error (.file (.noTemplate template)) { w with files := t }
      | .ok true t =>
        match transfer settings template project w.directory t with
        | .ok (.ok ()) t => .ok () { w with files := t }
        | .ok (.error fault) t => .error (.file (.notCopied project fault)) { w with files := t }
        | .error (.system e) t =>
          .error (.file (.notCopied project (.system e))) { w with files := t }
        | .error f t => .error f { w with files := t } := by
  rw [copyTemplate, Step.bind_apply, Action.onFiles]
  rcases Files.isDirectory w.directory template w.files with ⟨_ | _, t⟩ | ⟨f, t⟩
  · rfl
  · change (Action.attempt (Action.onFiles (transfer settings template project)) >>= _)
      { w with files := t } = _
    rw [Step.bind_apply, Action.attempt, Action.onFiles]
    dsimp only
    rcases transfer settings template project w.directory t with ⟨_ | _, t⟩ | ⟨f, t⟩
    · rfl
    · rfl
    · cases f <;> rfl
  · rfl

theorem copyTemplate_ok
    (hfound : Files.isDirectory w.directory template w.files = .ok true w.files)
    (hcopied : copyAll settings template project w.directory w.files = .ok [] copied)
    (hignoring : Files.copyFile w.directory (template.child settings.gitignoreSource)
      (project.child (text ".gitignore")) copied = .ok (.ok ()) t) :
    copyTemplate settings template project w = .ok () { w with files := t } := by
  rw [copyTemplate_apply, hfound]
  dsimp only
  rw [transfer_ok_iff.2 ⟨copied, hcopied, hignoring⟩]

theorem copyTemplate_cases (settings : ScaffoldSettings) (template project : Path) (w : Workshop) :
    (∃ copied t, Files.isDirectory w.directory template w.files = .ok true w.files ∧
      copyAll settings template project w.directory w.files = .ok [] copied ∧
      Files.copyFile w.directory (template.child settings.gitignoreSource)
        (project.child (text ".gitignore")) copied = .ok (.ok ()) t) ∨
    FailsEarly (copyTemplate settings template project) w := by
  rw [FailsEarly, copyTemplate_apply]
  rcases Files.isDirectory_apply w.directory template w.files with ⟨found, hfound, -⟩ | ⟨f, hfound⟩
  · rw [hfound]
    cases found with
    | false => exact .inr ⟨_, w.files, _, rfl⟩
    | true =>
      dsimp only
      rcases htransfer : transfer settings template project w.directory w.files with
        ⟨fault | _, t⟩ | ⟨f, t⟩
      · exact .inr ⟨_, t, _, rfl⟩
      · obtain ⟨copied, hcopied, hignoring⟩ := transfer_ok_iff.1 htransfer
        exact .inl ⟨copied, t, rfl, hcopied, hignoring⟩
      · cases f <;> exact .inr ⟨_, t, _, rfl⟩
  · rw [hfound]
    exact .inr ⟨f, w.files, _, rfl⟩

/-! ## The manifest -/

theorem customize_ok {m : Text}
    (hread : Files.readText w.directory (manifestPath settings project) w.files = .ok m w.files)
    (hwritten : Files.writeText w.directory (manifestPath settings project)
      (Text.replaceFirst settings.placeholder name m) w.files = .ok () t) :
    customize settings project name w = .ok ()
      { w with
        files := t
        shown := w.shown ++ [Notice.success (text "Project files customized")] } := by
  simp only [customize, Step.bind_apply, Action.attempt, Action.onFiles, hread, hwritten]
  rfl

theorem customize_cases (settings : ScaffoldSettings) (project : Path) (name : Text)
    (w : Workshop) :
    (∃ m t, Files.readText w.directory (manifestPath settings project) w.files = .ok m w.files ∧
      Files.writeText w.directory (manifestPath settings project)
        (Text.replaceFirst settings.placeholder name m) w.files = .ok () t) ∨
    FailsEarly (customize settings project name) w := by
  simp only [FailsEarly, customize, Step.bind_apply, Action.attempt, Action.onFiles]
  rcases hread : Files.readText w.directory (manifestPath settings project) w.files with
    ⟨m, t⟩ | ⟨f, t⟩
  · obtain ⟨rfl, -⟩ := Files.readText_ok hread
    dsimp only
    rcases hwritten : Files.writeText w.directory (manifestPath settings project)
      (Text.replaceFirst settings.placeholder name m) w.files with ⟨u, t⟩ | ⟨f, t⟩
    · exact .inl ⟨m, t, rfl, hwritten⟩
    · cases f <;> exact .inr ⟨_, t, _, rfl⟩
  · cases f <;> exact .inr ⟨_, t, _, rfl⟩

/-! ## All of it -/

/-- What comes before the set-up. -/
def furnish (settings : ScaffoldSettings) (template project : Path) (name : Text) :
    Action Unit := do
  Action.display (.status (text "Setting up your project..."))
  makeDirectory project
  copyTemplate settings template project
  Action.display (.status (text "Customizing project files..."))
  customize settings project name

/-- **What is furnished does not depend on any process.** -/
theorem furnish_of_furnished
    (h : Furnished settings w.directory template project name w.files t) :
    ∃ shown, furnish settings template project name w =
      .ok () { w with files := t, shown := shown } := by
  obtain ⟨hmade, hfound, hcopied, hignoring, hread, hwritten⟩ := h
  rw [furnish, Step.bind_ok (Action.display_apply _ _),
    Step.bind_ok (makeDirectory_ok (w := { w with shown := w.shown ++ _ }) hmade),
    Step.bind_ok (copyTemplate_ok (w := { w with files := _, shown := w.shown ++ _ }) hfound
      hcopied hignoring),
    Step.bind_ok (Action.display_apply _ _)]
  exact ⟨_, customize_ok (w := { w with files := _, shown := w.shown ++ _ ++ _ }) hread hwritten⟩

/-- Whatever comes before the set-up furnishes the project or ends it all. -/
theorem furnish_cases (settings : ScaffoldSettings) (template project : Path) (name : Text)
    (w : Workshop) :
    (∃ t, Furnished settings w.directory template project name w.files t) ∨
    FailsEarly (furnish settings template project name) w := by
  rw [FailsEarly, furnish, Step.bind_ok (Action.display_apply _ _)]
  rcases makeDirectory_cases project { w with shown := w.shown ++ _ } with
    ⟨made, hmade⟩ | ⟨f, t, shown, hmake⟩
  swap
  · rw [Step.bind_error hmake]
    exact .inr ⟨f, t, shown, rfl⟩
  rw [Step.bind_ok (makeDirectory_ok hmade)]
  rcases copyTemplate_cases settings template project { w with files := made, shown := _ } with
    ⟨copied, ignoring, hfound, hcopied, hignoring⟩ | ⟨f, t, shown, hcopy⟩
  swap
  · rw [Step.bind_error hcopy]
    exact .inr ⟨f, t, shown, rfl⟩
  rw [Step.bind_ok (copyTemplate_ok hfound hcopied hignoring),
    Step.bind_ok (Action.display_apply _ _)]
  rcases customize_cases settings project name { w with files := ignoring, shown := _ } with
    ⟨manifest, t, hread, hwritten⟩ | ⟨f, t, shown, hcustomize⟩
  · exact .inl ⟨t, .intro hmade hfound hcopied hignoring hread hwritten⟩
  · rw [hcustomize]
    exact .inr ⟨f, t, shown, rfl⟩

end Project

end AgentWorkshop
