import AgentWorkshop.Proofs.Project.Furnish
import AgentWorkshop.Proofs.Project.SetUp
import Mathlib

/-!
# The course of making a project

A name that is not accepted is refused, everything that fails before the set-up ends it all,
and what is furnished is set up (`create_cases`). So making a project fails fast
(`create_fail_fast`): a command is run only on a furnished tree and after a success of every
command before it, its failure is what comes of it all, and the tree it leaves is the one that
a success would have left.
-/

namespace AgentWorkshop

namespace Project

variable {settings : ScaffoldSettings} {directory : Path} {tpl : Template} {name : Text}
variable {w : Workshop} {t : FileTree}

/-- The set-up, and what comes after it. -/
def setUp (settings : ScaffoldSettings) (directory project : Path) : Action Path := do
  perform (setUpSteps settings directory project)
  Action.display (Notice.success (text "Project setup complete!"))
  return project

theorem create_of_accepts (haccepts : ProjectName.accepts name = true) (tpl : Template) :
    create settings directory tpl name = (do
      furnish settings (settings.templateDir.child tpl.directory) (directory.child name) name
      setUp settings directory (directory.child name)) := by
  have hcheck : ProjectName.check name = .ok name := by rw [ProjectName.check, if_pos haccepts]
  simp only [create, hcheck, furnish, setUp, setUpSteps, perform, bind_assoc, pure_bind]

theorem create_of_not_accepts (haccepts : ProjectName.accepts name = false) (tpl : Template) :
    create settings directory tpl name w = .error (.badName name) w := by
  have hcheck : ProjectName.check name = .error (.badName name) := by
    rw [ProjectName.check, haccepts, if_neg Bool.false_ne_true]
  rw [create, hcheck]
  rfl

/-- **A project is refused, fails before its set-up or is furnished.** -/
theorem create_cases (settings : ScaffoldSettings) (directory : Path) (tpl : Template)
    (name : Text) (w : Workshop) :
    (ProjectName.accepts name = false ∧
      create settings directory tpl name w = .error (.badName name) w) ∨
    (ProjectName.accepts name = true ∧ FailsEarly (create settings directory tpl name) w) ∨
    (ProjectName.accepts name = true ∧
      ∃ t, Furnished settings w.directory (settings.templateDir.child tpl.directory)
        (directory.child name) name w.files t) := by
  cases haccepts : ProjectName.accepts name with
  | false => exact .inl ⟨rfl, create_of_not_accepts haccepts tpl⟩
  | true =>
    refine .inr ?_
    rcases furnish_cases settings (settings.templateDir.child tpl.directory)
      (directory.child name) name w with ⟨t, hfurnished⟩ | ⟨f, t, shown, hfurnish⟩
    · exact .inr ⟨rfl, t, hfurnished⟩
    · refine .inl ⟨rfl, f, t, shown, ?_⟩
      rw [create_of_accepts haccepts, Step.bind_error hfurnish]

/-! ## The steps that are run -/

/-- The steps that are run of the set-up of a furnished project, and the failure that ends it. -/
def ranOf (settings : ScaffoldSettings) (directory : Path) (name : Text) (w : Workshop)
    (t : FileTree) : List SetUpStep × Option Failure :=
  performed { w with files := t } 0 (setUpSteps settings directory (directory.child name))

/-- The launches of the steps that are run, each with the furnished tree. -/
def launchesOf (settings : ScaffoldSettings) (directory : Path) (name : Text) (w : Workshop)
    (t : FileTree) : List Launch :=
  (ranOf settings directory name w t).1.map (·.launch { w with files := t })

section
variable {k : Nat} {s : SetUpStep} {l : Launch} {f : Failure}

theorem getElem?_launchesOf : (launchesOf settings directory name w t)[k]? = some l ↔
    ∃ s, (ranOf settings directory name w t).1[k]? = some s ∧
      s.launch { w with files := t } = l := by
  rw [launchesOf, List.getElem?_map, Option.map_eq_some_iff]

/-- What is run is a beginning of the three commands. -/
theorem launchesOf_beginning (settings : ScaffoldSettings) (directory : Path) (name : Text)
    (w : Workshop) (t : FileTree) :
    (launchesOf settings directory name w t).map (·.invocation) <+:
      [setUpInvocation [text "git", text "init"] (directory.child name),
        setUpInvocation [text "npm", text "install"] (directory.child name),
        setUpInvocation [text "rustup", text "target", text "add", settings.wasmTarget]
          directory] := by
  rw [launchesOf, List.map_map]
  exact (performed_beginning _ _ _).map _

/-- Nothing fails exactly if all three commands are run and succeed. -/
theorem ranOf_none_iff : (ranOf settings directory name w t).2 = none ↔
    (launchesOf settings directory name w t).length = 3 ∧
      ∀ k l, (launchesOf settings directory name w t)[k]? = some l →
        (w.outcome k l).Succeeded := by
  simp only [getElem?_launchesOf, forall_exists_index, and_imp, forall_apply_eq_imp_iff₂]
  rw [launchesOf, List.length_map, ranOf, performed_ok_iff]
  simp only [Nat.zero_add]
  constructor
  · rintro ⟨hall, hsucceeded⟩
    rw [hall]
    exact ⟨rfl, hsucceeded⟩
  · rintro ⟨hlength, hsucceeded⟩
    have hall := (performed_beginning { w with files := t } 0
      (setUpSteps settings directory (directory.child name))).eq_of_length hlength
    rw [hall] at hsucceeded
    exact ⟨hall, hsucceeded⟩

/-- A command that others follow succeeds. -/
theorem launchesOf_succeeded (hl : (launchesOf settings directory name w t)[k]? = some l)
    (hk : k + 1 < (launchesOf settings directory name w t).length) :
    (w.outcome k l).Succeeded := by
  obtain ⟨s, hs, rfl⟩ := getElem?_launchesOf.1 hl
  rw [launchesOf, List.length_map] at hk
  rcases performed_step hs with hsucceeded | ⟨hlast, -⟩
  · rwa [Nat.zero_add] at hsucceeded
  · exact absurd hlast (Nat.ne_of_gt hk)

/-- A command that fails is what it all fails with. -/
theorem ranOf_failed (hs : (ranOf settings directory name w t).1[k]? = some s)
    (hf : stepFailure? s.words (w.outcome k (s.launch { w with files := t })) = some f) :
    (ranOf settings directory name w t).2 = some f := by
  have hfails : ¬ (w.outcome k (s.launch { w with files := t })).Succeeded := by
    intro hsucceeded
    have hnone : stepFailure? s.words (w.outcome k (s.launch { w with files := t })) = none :=
      stepFailure?_eq_none_iff.2 hsucceeded
    rw [hf] at hnone
    cases hnone
  have hstep := performed_step hs
  rw [Nat.zero_add] at hstep
  exact (hstep.resolve_left hfails).2.trans hf

end

/-! ## A furnished project -/

/-- A workshop once a project is furnished and its set-up is over. -/
def leave (settings : ScaffoldSettings) (directory : Path) (name : Text) (w : Workshop)
    (t : FileTree) (shown : List Event) : Workshop :=
  { w with
    files := t
    launches := w.launches ++ launchesOf settings directory name w t
    shown := shown }

section
variable (huntouching : w.Untouching) (haccepts : ProjectName.accepts name = true)
variable (hfurnished : Furnished settings w.directory (settings.templateDir.child tpl.directory)
  (directory.child name) name w.files t)
include huntouching haccepts hfurnished

/-- **A furnished project is set up**, and given back if nothing fails. -/
theorem create_of_furnished : ∃ shown, create settings directory tpl name w =
    ended (directory.child name) (ranOf settings directory name w t).2
      (leave settings directory name w t shown) := by
  obtain ⟨shown, hfurnish⟩ := furnish_of_furnished hfurnished
  obtain ⟨shown', hperform⟩ := perform_apply (w := { w with files := t }) huntouching
    (setUpSteps settings directory (directory.child name)) [] shown
  simp only [List.append_nil, List.length_nil] at hperform
  rw [create_of_accepts haccepts, Step.bind_ok hfurnish, setUp, ranOf]
  cases hran : (performed { w with files := t } 0
      (setUpSteps settings directory (directory.child name))).2 with
  | none =>
    rw [hran, ended] at hperform
    rw [Step.bind_ok hperform]
    exact ⟨_, rfl⟩
  | some f =>
    rw [hran, ended] at hperform
    rw [Step.bind_error hperform]
    exact ⟨shown', rfl⟩

/-- What is left does not depend on how the set-up ends. -/
theorem after_of_furnished : ∃ shown, (create settings directory tpl name).after w =
    leave settings directory name w t shown := by
  obtain ⟨shown, hcreate⟩ := create_of_furnished huntouching haccepts hfurnished
  refine ⟨shown, ?_⟩
  cases hran : (ranOf settings directory name w t).2 with
  | none =>
    rw [hran] at hcreate
    exact Action.after_ok hcreate
  | some f =>
    rw [hran] at hcreate
    exact Action.after_error hcreate

theorem create_ok_iff (path : Path) :
    (∃ w', create settings directory tpl name w = .ok path w') ↔
      path = directory.child name ∧ (ranOf settings directory name w t).2 = none := by
  obtain ⟨shown, hcreate⟩ := create_of_furnished huntouching haccepts hfurnished
  rw [hcreate]
  cases (ranOf settings directory name w t).2 with
  | none => simp [ended, eq_comm]
  | some f => simp [ended]

theorem create_of_failed {k : Nat} {s : SetUpStep} {f : Failure}
    (hs : (ranOf settings directory name w t).1[k]? = some s)
    (hf : stepFailure? s.words (w.outcome k (s.launch { w with files := t })) = some f) :
    ∃ w', create settings directory tpl name w = .error f w' := by
  obtain ⟨shown, hcreate⟩ := create_of_furnished huntouching haccepts hfurnished
  rw [ranOf_failed hs hf] at hcreate
  exact ⟨_, hcreate⟩

/-- **What a command's failure becomes**: it keeps its code and what it wrote, the system's
objection has the code `-1`, and anything else is passed on. -/
theorem create_raises {k : Nat} {l : Launch}
    (hl : (launchesOf settings directory name w t)[k]? = some l) :
    (∀ code out err, w.outcome k l = .exited code out err → code ≠ 0 →
      ∃ w', create settings directory tpl name w =
        .error (.command l.invocation.command.toText code err) w') ∧
    (∀ e, w.outcome k l = .failed (.system e) →
      ∃ w', create settings directory tpl name w =
        .error (.command l.invocation.command.toText (-1) e.message) w') ∧
    ∀ f, w.outcome k l = .failed f → (∀ e, f ≠ .system e) →
      ∃ w', create settings directory tpl name w = .error f w' := by
  obtain ⟨s, hs, rfl⟩ := getElem?_launchesOf.1 hl
  refine ⟨fun code out err ho hcode => ?_, fun e ho => ?_, fun f ho hf => ?_⟩ <;>
    refine create_of_failed huntouching haccepts hfurnished hs ?_ <;> rw [ho]
  · rw [stepFailure?, if_neg hcode]
    rfl
  · rfl
  · cases f with
    | system e => exact absurd rfl (hf e)
    | _ => rfl

omit huntouching in
/-- Other processes leave the same tree, and a project if they succeed. -/
theorem create_of_runner {runner : Nat → Runner}
    (huntouching' : Workshop.Untouching { w with runner := runner }) :
    ((create settings directory tpl name).after { w with runner := runner }).files = t ∧
      ((∀ n i t, (runner n i t).2.Succeeded) →
        ∃ w', create settings directory tpl name { w with runner := runner } =
          .ok (directory.child name) w') := by
  obtain ⟨shown, hafter⟩ := after_of_furnished (w := { w with runner := runner })
    huntouching' haccepts hfurnished
  refine ⟨by rw [hafter, leave], fun hall => ?_⟩
  rw [create_ok_iff (w := { w with runner := runner }) huntouching' haccepts hfurnished]
  exact ⟨rfl, performed_ok fun i s _ => hall _ _ _⟩

end

/-- **Making a project fails fast.** Where no process touches a file:

* what is run is a beginning of `git init` and `npm install` in the project and `rustup` in
  the directory above it;
* each command is run after a success of all before it, and none before the name is accepted
  and the project furnished in a directory that was not there;
* the project's path is given back exactly if all three commands succeed; a command that does
  not is the failure, with its exit code and what it wrote of it, or with `-1` and what the
  system said;
* a name that is not accepted changes nothing, and once a command was run the tree is the one
  that is left whatever the commands do, so also the one that their success leaves. -/
theorem create_fail_fast (settings : ScaffoldSettings) (directory : Path) (tpl : Template)
    (name : Text) (huntouching : w.Untouching) :
    ∃ new, ((create settings directory tpl name).after w).launches = w.launches ++ new ∧
      new.map (·.invocation) <+:
        [setUpInvocation [text "git", text "init"] (directory.child name),
          setUpInvocation [text "npm", text "install"] (directory.child name),
          setUpInvocation [text "rustup", text "target", text "add", settings.wasmTarget]
            directory] ∧
      (∀ j k l, j < k → k < new.length → new[j]? = some l → (w.outcome j l).Succeeded) ∧
      (new ≠ [] → ProjectName.accepts name = true ∧
        (∃ made a, Files.makeDirectories false w.directory (directory.child name) w.files =
          .ok () made ∧ w.files.get? a = none ∧
          Files.Leads made w.directory (directory.child name) a) ∧
        Furnished settings w.directory (settings.templateDir.child tpl.directory)
          (directory.child name) name w.files
          ((create settings directory tpl name).after w).files ∧
        ∀ l ∈ new, l.files = ((create settings directory tpl name).after w).files) ∧
      (∀ path, (∃ w', create settings directory tpl name w = .ok path w') ↔
        path = directory.child name ∧ new.length = 3 ∧
          ∀ k l, new[k]? = some l → (w.outcome k l).Succeeded) ∧
      (∀ k l, new[k]? = some l →
        (∀ code out err, w.outcome k l = .exited code out err → code ≠ 0 →
          ∃ w', create settings directory tpl name w =
            .error (.command l.invocation.command.toText code err) w') ∧
        (∀ e, w.outcome k l = .failed (.system e) →
          ∃ w', create settings directory tpl name w =
            .error (.command l.invocation.command.toText (-1) e.message) w') ∧
        ∀ f, w.outcome k l = .failed f → (∀ e, f ≠ .system e) →
          ∃ w', create settings directory tpl name w = .error f w') ∧
      (ProjectName.accepts name = false →
        create settings directory tpl name w = .error (.badName name) w) ∧
      (new ≠ [] → ∀ runner, Workshop.Untouching { w with runner := runner } →
        ((create settings directory tpl name).after { w with runner := runner }).files =
          ((create settings directory tpl name).after w).files ∧
        ((∀ n i t, (runner n i t).2.Succeeded) →
          ∃ w', create settings directory tpl name { w with runner := runner } =
            .ok (directory.child name) w')) := by
  have hnothing (f : Failure) (w₁ : Workshop)
      (hcreate : create settings directory tpl name w = .error f w₁)
      (hlaunches : w₁.launches = w.launches) :
      ((create settings directory tpl name).after w).launches = w.launches ++ [] := by
    rw [Action.after_error hcreate, hlaunches, List.append_nil]
  rcases create_cases settings directory tpl name w with
    ⟨haccepts, hcreate⟩ | ⟨haccepts, f, t, shown, hcreate⟩ | ⟨haccepts, t, hfurnished⟩
  · refine ⟨[], hnothing _ _ hcreate rfl, ?_⟩
    simp [hcreate]
  · refine ⟨[], hnothing _ _ hcreate rfl, ?_⟩
    simp [hcreate, haccepts]
  · obtain ⟨shown, hafter⟩ := after_of_furnished huntouching haccepts hfurnished
    refine ⟨launchesOf settings directory name w t, by rw [hafter, leave],
      launchesOf_beginning _ _ _ _ _, fun j k l hjk hk hl => ?_, fun _ => ?_, fun path => ?_,
      fun k l hl => create_raises huntouching haccepts hfurnished hl, ?_,
      fun _ runner huntouching' => ?_⟩
    · exact launchesOf_succeeded hl (Nat.lt_of_le_of_lt hjk hk)
    · rw [hafter]
      refine ⟨haccepts, ?_, hfurnished, ?_⟩
      · obtain ⟨hmade⟩ := hfurnished
        obtain ⟨a, hnone, hleads, -⟩ := Files.makeDirectories_fresh hmade
        exact ⟨_, a, hmade, hnone, hleads⟩
      · rw [launchesOf, List.forall_mem_map]
        exact fun s _ => rfl
    · rw [create_ok_iff huntouching haccepts hfurnished, ranOf_none_iff]
    · rw [haccepts]
      intro h
      cases h
    · rw [hafter]
      exact create_of_runner haccepts hfurnished huntouching'

/-! ## A small workshop -/

/-- Settings with the templates in `tpl`. -/
def trial : ScaffoldSettings :=
  { ScaffoldSettings.usual with templateDir := ⟨.here, [text "tpl"]⟩ }

/-- A template of a `.gitignore` and a manifest. -/
def seeds : FileTree :=
  (FileTree.empty.place [text "tpl", text "agent", text "gitignore"] (.file [10])).place
    [text "tpl", text "agent", text "agent-template", text "Cargo.toml"] (.file [65])

/-- A workshop at the top of it, where the second process fails. -/
def bench : Workshop :=
  .initial seeds [] fun n _ t => (t, .exited (if n = 1 then 1 else 0) [] (text "no"))

/-- There the packages cannot be installed, and the compiler is not set up. -/
theorem create_fail_fast_install : ∃ new w',
    ((create trial ⟨.here, []⟩ .llmChat (text "p")).after bench).launches = new ∧
      new.length = 2 ∧
      create trial ⟨.here, []⟩ .llmChat (text "p") bench =
        .error (.command (text "npm install") 1 (text "no")) w' := by
  obtain ⟨new, hnew, -, -, -, -, hfails, -⟩ :=
    create_fail_fast (w := bench) trial ⟨.here, []⟩ .llmChat (text "p") fun _ _ _ => rfl
  have hlaunches : new.map (·.invocation.command) =
      [.program [text "git", text "init"], .program [text "npm", text "install"]] := by
    rw [← List.nil_append new]
    change (bench.launches ++ new).map _ = _
    rw [← hnew]
    cbv
  obtain ⟨git, rest, rfl, -, hrest⟩ := List.map_eq_cons_iff.1 hlaunches
  obtain ⟨npm, rest, rfl, hnpm, hnone⟩ := List.map_eq_cons_iff.1 hrest
  rw [List.map_eq_nil_iff.1 hnone] at hnew hfails
  obtain ⟨w', hcreate⟩ := (hfails 1 npm rfl).1 1 [] (text "no") rfl (by decide)
  rw [hnpm] at hcreate
  exact ⟨_, w', hnew, rfl, hcreate⟩

end Project

end AgentWorkshop
