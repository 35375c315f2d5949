import AgentWorkshop.Proofs.Files.Effects
import AgentWorkshop.Proofs.Project.Furnish
import AgentWorkshop.Proofs.Project.Processes

/-!
# The causes of a failed project

Once its name is accepted, making a project fails because work on files does, because a file or a
command is reported, or as a process was answered (`Cause`, `create_cause`). None of its own steps
refuses a name again (`process_of_badName`).
-/

namespace AgentWorkshop

namespace Project

open Step Files

variable {settings : ScaffoldSettings} {directory template project : Path} {tpl : Template}
variable {name : Text} {w w' : Workshop} {f : Failure}

/-- What a step of making a project fails with. -/
inductive Cause (w : Workshop) : Failure → Prop
  | files {f : Failure} (h : f.OfFiles) : Cause w f
  | file (fault : FileFault) : Cause w (.file fault)
  | command (line : Text) (code : Int) (stderr : Text) : Cause w (.command line code stderr)
  | process {f : Failure} (k : Nat) (i : Invocation) (t : FileTree)
    (h : (w.runner k i t).2 = .failed f) : Cause w f

/-- Processes go on to be answered by the same runner. -/
def SameRunner (w w' : Workshop) : Prop :=
  w'.runner = w.runner

theorem cause_congr (h : SameRunner w w') : Cause w f ↔ Cause w' f := by
  rw [SameRunner] at h
  constructor
  · rintro (hf | fault | ⟨line, code, stderr⟩ | ⟨k, i, t, hf⟩)
    · exact .files hf
    · exact .file fault
    · exact .command line code stderr
    · exact .process k i t (h ▸ hf)
  · rintro (hf | fault | ⟨line, code, stderr⟩ | ⟨k, i, t, hf⟩)
    · exact .files hf
    · exact .file fault
    · exact .command line code stderr
    · exact .process k i t (h ▸ hf)

/-- The action leaves the runner alone, and fails for such a cause. -/
abbrev Caused {α : Type} (act : Action α) : Prop :=
  Within SameRunner Cause act

theorem composes_caused : Composes SameRunner Cause :=
  ⟨fun _ => rfl, fun h h' => Eq.trans h' h, fun h => (cause_congr h).2⟩

/-! ## Building blocks -/

section
variable {α β : Type}

theorem caused_display (e : Event) : Caused (Action.display e) :=
  within_modify fun _ => rfl

theorem caused_onFiles {R : FileTree → FileTree → Prop} {act : Address → FileAction α}
    (h : ∀ here, Keeps R (act here)) : Caused (Action.onFiles act) := by
  intro w
  rw [Action.onFiles]
  cases hact : act w.directory w.files with
  | ok a t => exact rfl
  | error f t => exact ⟨rfl, .files ((h w.directory).error hact).2⟩

/-- What is made of a failure has to have a cause again. -/
theorem caused_attempt {act : Action α} {next : Except Failure α → Action β} (hact : Caused act)
    (hok : ∀ a, Caused (next (.ok a)))
    (herror : ∀ w f, Cause w f → Bounded SameRunner Cause w (next (.error f) w)) :
    Caused (Action.attempt act >>= next) := by
  intro w
  cases hfirst : act w with
  | ok a w₁ =>
    rw [Step.bind_ok (Action.attempt_ok hfirst)]
    exact composes_caused.after (hact.ok hfirst) (hok a w₁)
  | error f w₁ =>
    obtain ⟨hsame, hf⟩ := hact.error hfirst
    rw [Step.bind_ok (Action.attempt_error hfirst)]
    exact composes_caused.after hsame (herror w₁ f ((cause_congr hsame).1 hf))

end

/-! ## The steps -/

theorem caused_makeDirectory : Caused (makeDirectory project) := by
  -- A system error is reported as that of the directory; every other failure stays what it is.
  refine caused_attempt (caused_onFiles fun _ => keeps_makeDirectories false)
    (fun _ => composes_caused.pure _) fun w f hf => ?_
  cases f with
  | system e =>
    dsimp only
    split <;> exact ⟨rfl, .file _⟩
  | _ => exact ⟨rfl, hf⟩

theorem keeps_copyAll (here : Address) :
    Keeps (fun _ _ => True) (copyAll settings template project here) := by
  refine composes_true.bind keeps_find.free fun source =>
    composes_true.bind keeps_find.free fun goal => ?_
  split
  · exact keeps_copyTree
  · exact composes_true.pure _

theorem keeps_transfer (here : Address) :
    Keeps (fun _ _ => True) (transfer settings template project here) := by
  refine composes_true.bind (keeps_copyAll here) fun faults => ?_
  split
  · exact composes_true.pure _
  · exact keeps_copyFile

theorem caused_copyTemplate : Caused (copyTemplate settings template project) := by
  refine composes_caused.bind (caused_onFiles fun _ => keeps_isDirectory) fun found => ?_
  refine composes_caused.guarded (composes_caused.throw fun _ => .file _) ?_
  refine caused_attempt (caused_onFiles keeps_transfer) (fun copied => ?_) fun w f hf => ?_
  · cases copied with
    | ok _ => exact composes_caused.pure _
    | error fault => exact composes_caused.throw fun _ => .file _
  · cases f with
    | system e => exact ⟨rfl, .file _⟩
    | _ => exact ⟨rfl, hf⟩

theorem caused_customize : Caused (customize settings project name) := by
  have hwrite (here : Address) : Keeps (fun _ _ => True) (do
      let t ← readText here (manifestPath settings project)
      writeText here (manifestPath settings project)
        (Text.replaceFirst settings.placeholder name t)) :=
    composes_true.bind keeps_readText.free fun _ => keeps_writeText _
  refine caused_attempt (caused_onFiles hwrite) (fun _ => caused_display _) fun w f hf => ?_
  cases f with
  | system e => exact ⟨rfl, .file _⟩
  | _ => exact ⟨rfl, hf⟩

theorem caused_runStep (words : List Text) (directory : Path) :
    Caused (runStep words directory) := by
  intro w
  rw [runStep_once ⟨[], words, directory⟩ w]
  cases hanswer : w.answer (SetUpStep.invocation ⟨[], words, directory⟩) with
  | exited code stdout stderr =>
    rw [stepFailure?]
    split
    · exact rfl
    · exact ⟨rfl, .command _ _ _⟩
  | failed f =>
    cases f with
    | system e => exact ⟨rfl, .command _ _ _⟩
    | _ => exact ⟨rfl, .process _ _ _ hanswer⟩

/-- **Making a project with an accepted name** fails for one of the causes. -/
theorem caused_create (haccepts : ProjectName.accepts name = true) :
    Caused (create settings directory tpl name) := by
  rw [create, ProjectName.check, if_pos haccepts]
  refine composes_caused.bind (composes_caused.pure name) fun name => ?_
  refine composes_caused.bind (caused_display _) fun _ => composes_caused.bind caused_makeDirectory
    fun _ => composes_caused.bind caused_copyTemplate fun _ => ?_
  refine composes_caused.bind (caused_display _) fun _ => composes_caused.bind caused_customize
    fun _ => composes_caused.bind (caused_display _) fun _ => ?_
  refine composes_caused.bind (caused_runStep _ _) fun _ => composes_caused.bind (caused_display _)
    fun _ => composes_caused.bind (caused_runStep _ _) fun _ => ?_
  exact composes_caused.bind (caused_display _) fun _ => composes_caused.bind (caused_runStep _ _)
    fun _ => composes_caused.bind (caused_display _) fun _ => composes_caused.pure _

/-- **An accepted name is not refused again**, unless that is what a process was answered. -/
theorem process_of_badName (haccepts : ProjectName.accepts name = true) {refused : Text}
    (h : create settings directory tpl name w = .error (.badName refused) w') :
    ∃ k i t, (w.runner k i t).2 = .failed (.badName refused) := by
  obtain ⟨-, hfiles | - | - | ⟨k, i, t, hprocess⟩⟩ := (caused_create haccepts).error h
  · cases hfiles
  · exact ⟨k, i, t, hprocess⟩

end Project

end AgentWorkshop
