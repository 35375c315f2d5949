import AgentWorkshop.Proofs.Project.Furnishing
import AgentWorkshop.Proofs.Text.Replacement

/-!
# What making a project fails with

Making a project refuses a name, reports the failure of a file or of a command, or makes the
project. It reports those of a file in its own words, but for four that are passed on as they are
(`Overlooked`): a path or a tree that is too deep, a template's path that is too long, and a
manifest that is no text. These are all (`create_failures`).
-/

namespace AgentWorkshop

namespace Project

open Files (Leads)

variable {settings : ScaffoldSettings} {here : Address} {directory template project : Path}
variable {tpl : Template} {name : Text} {w : Workshop} {t : FileTree} {f : Failure}

/-- **A failure that is not reported as one of a file**, though it is one: the path of the project
is too deep to be made, the template's is too long to be looked for, the template is too deep to be
copied, or its manifest is no text. -/
inductive Overlooked (settings : ScaffoldSettings) (here : Address) (template project : Path)
    (t : FileTree) : Failure → Prop
  | deepPath {made : FileTree}
    (hmade : Files.makeDirectories false here project t = .error .deepPath made)
    (hdeep : Files.madeLimit ≤ project.parts.length) :
    Overlooked settings here template project t .deepPath
  | longTemplate {made found : FileTree}
    (hmade : Files.makeDirectories false here project t = .ok () made)
    (hfound : Files.isDirectory here template made =
      .error (Files.failure .nameTooLong template) found)
    (hlong : Files.pathLimit ≤ Files.byteCount template.toText ∨
      ∃ part ∈ template.parts, Files.nameLimit < Files.byteCount part) :
    Overlooked settings here template project t (Files.failure .nameTooLong template)
  | deepTree {made copied : FileTree} {source goal : Address}
    (hmade : Files.makeDirectories false here project t = .ok () made)
    (hfound : Files.isDirectory here template made = .ok true made)
    (hcopied : copyAll settings template project here made = .error .deepTree copied)
    (hsource : Leads made here template source) (hgoal : Leads made here project goal)
    (hdeep : (∀ x y, source ++ x ≠ goal ++ y) →
      Files.DeepAs (isLeftOut settings) Files.levelLimit made source) :
    Overlooked settings here template project t .deepTree
  | noText {made copied ignoring : FileTree} {bytes : Bytes} {piece : Utf8.Undecodable}
    (hmade : Files.makeDirectories false here project t = .ok () made)
    (hfound : Files.isDirectory here template made = .ok true made)
    (hcopied : copyAll settings template project here made = .ok [] copied)
    (hignoring : Files.copyFile here (template.child settings.gitignoreSource)
      (project.child (text ".gitignore")) copied = .ok (.ok ()) ignoring)
    (hread : Files.contents ignoring here (manifestPath settings project) = .ok bytes)
    (hdecoded : Utf8.decode bytes = .error piece)
    (hnone : ∀ s, Utf8.encode s ≠ .ok bytes) :
    Overlooked settings here template project t (.undecodable piece)

/-- An action fails so, after it changed nothing but files and what is shown. -/
def FailsWith {α : Type} (act : Action α) (w : Workshop) (f : Failure) : Prop :=
  ∃ t shown, act w = .error f { w with files := t, shown := shown }

namespace FailsWith

variable {α β : Type} {act : Action α} {next : α → Action β} {shown : List Event} {a : α}

/-- A sequence fails with its first part. -/
theorem first (h : FailsWith act w f) : FailsWith (act >>= next) w f := by
  obtain ⟨t, shown, h⟩ := h
  exact ⟨t, shown, Step.bind_error h⟩

/-- Or, once that is done, with the second. -/
theorem later (hact : act w = .ok a { w with files := t, shown := shown })
    (h : FailsWith (next a) { w with files := t, shown := shown } f) :
    FailsWith (act >>= next) w f := by
  obtain ⟨t, shown, h⟩ := h
  exact ⟨t, shown, (Step.bind_ok hact).trans h⟩

end FailsWith

/-- No path of a project is given with U+0000. -/
structure NullFree (settings : ScaffoldSettings) (directory : Path) : Prop where
  directory : directory.hasNull = false
  templateDir : settings.templateDir.hasNull = false
  gitignoreSource : settings.gitignoreSource.contains 0 = false
  manifestDir : settings.manifestDir.contains 0 = false
  manifestName : settings.manifestName.contains 0 = false

/-! ## The directory -/

theorem makeDirectory_outcome (hproject : project.hasNull = false) (w : Workshop) :
    (∃ t, Files.makeDirectories false w.directory project w.files = .ok () t) ∨
    (∃ fault, FailsWith (makeDirectory project) w (.file fault)) ∨
    ∃ t, Files.makeDirectories false w.directory project w.files = .error .deepPath t ∧
      Files.madeLimit ≤ project.parts.length := by
  cases h : Files.makeDirectories false w.directory project w.files with
  | ok u t => exact .inl ⟨t, rfl⟩
  | error f t =>
    rcases Files.makeDirectories_error hproject h with ⟨e, rfl⟩ | ⟨rfl, hdeep⟩
    · refine .inr (.inl ?_)
      simp only [FailsWith, makeDirectory, Step.bind_apply, Action.attempt, Action.onFiles, h]
      split <;> exact ⟨_, t, _, rfl⟩
    · exact .inr (.inr ⟨t, rfl, hdeep⟩)

theorem makeDirectory_deepPath
    (h : Files.makeDirectories false w.directory project w.files = .error .deepPath t) :
    FailsWith (makeDirectory project) w .deepPath := by
  simp only [FailsWith, makeDirectory, Step.bind_apply, Action.attempt, Action.onFiles, h]
  exact ⟨t, _, rfl⟩

/-! ## The template -/

theorem copyTemplate_outcome {goal : Address} (htemplate : template.hasNull = false)
    (hproject : project.hasNull = false) (hgitignore : settings.gitignoreSource.contains 0 = false)
    (hgoal : Leads w.files w.directory project goal) :
    (∃ copied t, Files.isDirectory w.directory template w.files = .ok true w.files ∧
      copyAll settings template project w.directory w.files = .ok [] copied ∧
      Files.copyFile w.directory (template.child settings.gitignoreSource)
        (project.child (text ".gitignore")) copied = .ok (.ok ()) t) ∨
    (∃ fault, FailsWith (copyTemplate settings template project) w (.file fault)) ∨
    (∃ t, Files.isDirectory w.directory template w.files =
        .error (Files.failure .nameTooLong template) t ∧
      (Files.pathLimit ≤ Files.byteCount template.toText ∨
        ∃ part ∈ template.parts, Files.nameLimit < Files.byteCount part)) ∨
    ∃ t source, Files.isDirectory w.directory template w.files = .ok true w.files ∧
      copyAll settings template project w.directory w.files = .error .deepTree t ∧
      Leads w.files w.directory template source ∧
      ((∀ x y, source ++ x ≠ goal ++ y) →
        Files.DeepAs (isLeftOut settings) Files.levelLimit w.files source) := by
  simp only [FailsWith]
  rw [copyTemplate_apply]
  rcases Files.isDirectory_apply w.directory template w.files with
    ⟨_ | _, hfound, hleads⟩ | ⟨f, hfound⟩ <;> rw [hfound]
  · exact .inr (.inl ⟨_, w.files, _, rfl⟩)
  · obtain ⟨source, hsource⟩ := hleads rfl
    dsimp only
    rw [transfer_apply]
    cases hcopy : copyAll settings template project w.directory w.files with
    | error f t =>
      obtain ⟨rfl, hdeep⟩ := Files.copyTree_error
        ((copyAll_of_leads htemplate hproject hsource hgoal).symm.trans hcopy)
      exact .inr (.inr (.inr ⟨t, source, rfl, rfl, hsource,
        fun hapart => hdeep hapart (.inr (by decide))⟩))
    | ok faults copied =>
      cases faults with
      | cons fault faults => exact .inr (.inl ⟨_, copied, _, rfl⟩)
      | nil =>
        obtain ⟨answer, t, hanswer⟩ := Files.copyFile_answers w.directory
          (Path.hasNull_child htemplate hgitignore)
          (Path.hasNull_child hproject (by decide : (text ".gitignore").contains 0 = false)) copied
        cases answer with
        | ok => exact .inl ⟨copied, t, rfl, rfl, hanswer⟩
        | error fault =>
          refine .inr (.inl ⟨.notCopied project fault, t, w.shown, ?_⟩)
          dsimp only
          rw [hanswer]
  · -- Looking for the template stands outside of what is reported.
    obtain ⟨rfl, hlong⟩ := Files.isDirectory_error hfound
    exact .inr (.inr (.inl ⟨w.files, rfl, Files.long_of_locate hlong⟩))

theorem copyTemplate_longTemplate
    (h : Files.isDirectory w.directory template w.files = .error f t) :
    FailsWith (copyTemplate settings template project) w f := by
  rw [FailsWith, copyTemplate_apply, h]
  exact ⟨t, _, rfl⟩

theorem copyTemplate_deepTree
    (hfound : Files.isDirectory w.directory template w.files = .ok true w.files)
    (hcopied : copyAll settings template project w.directory w.files = .error .deepTree t) :
    FailsWith (copyTemplate settings template project) w .deepTree := by
  rw [FailsWith, copyTemplate_apply, hfound]
  dsimp only
  rw [transfer_apply, hcopied]
  exact ⟨t, _, rfl⟩

/-! ## The manifest -/

/-- The path of the manifest is without U+0000. -/
theorem hasNull_manifestPath (hnull : NullFree settings directory)
    (hproject : project.hasNull = false) : (manifestPath settings project).hasNull = false :=
  Path.hasNull_child (Path.hasNull_child hproject hnull.manifestDir) hnull.manifestName

/-- A manifest that is read can be written: neither what is read of it nor the name holds
surrogates. -/
theorem customize_outcome (hmanifest : (manifestPath settings project).hasNull = false)
    (hname : name.IsScalar) (w : Workshop) :
    (∃ m t, Files.readText w.directory (manifestPath settings project) w.files = .ok m w.files ∧
      Files.writeText w.directory (manifestPath settings project)
        (Text.replaceFirst settings.placeholder name m) w.files = .ok () t) ∨
    (∃ fault, FailsWith (customize settings project name) w (.file fault)) ∨
    ∃ bytes piece, Files.contents w.files w.directory (manifestPath settings project) = .ok bytes ∧
      Utf8.decode bytes = .error piece := by
  simp only [FailsWith, customize, Step.bind_apply, Action.attempt, Action.onFiles,
    Files.readText_apply, Files.writeText_apply]
  cases hread : Files.contents w.files w.directory (manifestPath settings project) with
  | error f =>
    obtain ⟨e, rfl⟩ := Files.contents_error hmanifest hread
    exact .inr (.inl ⟨_, w.files, _, rfl⟩)
  | ok bytes =>
    dsimp only
    cases hdecoded : Utf8.decode bytes with
    | error piece => exact .inr (.inr ⟨bytes, piece, rfl, hdecoded⟩)
    | ok s =>
      -- The file that was read is the one that is written.
      obtain ⟨a, ha, -⟩ := Files.destination_of_contents hread
      obtain ⟨hscalar, -⟩ := Utf8.encode_eq_ok_iff.1 (Utf8.decode_eq_ok_iff.1 hdecoded)
      obtain ⟨written, hwritten⟩ : ∃ written, Utf8.encode
          (Text.replaceFirst settings.placeholder name s.normalizeNewlines) = .ok written :=
        ⟨_, Utf8.encode_eq_ok_iff.2 ⟨Text.isScalar_replaceFirst hname
          (Text.isScalar_normalizeNewlines hscalar), rfl⟩⟩
      refine .inl ⟨_, w.files.fill a written, rfl, ?_⟩
      rw [ha]
      dsimp only
      rw [hwritten]

theorem customize_noText {bytes : Bytes} {piece : Utf8.Undecodable}
    (hread : Files.contents w.files w.directory (manifestPath settings project) = .ok bytes)
    (hdecoded : Utf8.decode bytes = .error piece) :
    FailsWith (customize settings project name) w (.undecodable piece) := by
  simp only [FailsWith, customize, Step.bind_apply, Action.attempt, Action.onFiles,
    Files.readText_apply, hread, hdecoded]
  exact ⟨w.files, _, rfl⟩

/-! ## All of it -/

/-- **What comes before the set-up** furnishes the project, or fails by a file. -/
theorem furnish_outcome (hnull : NullFree settings directory) (htemplate : template.hasNull = false)
    (hproject : project.hasNull = false) (hname : name.IsScalar) (w : Workshop) :
    (∃ t, Furnished settings w.directory template project name w.files t) ∨
    (∃ fault, FailsWith (furnish settings template project name) w (.file fault)) ∨
    ∃ f, Overlooked settings w.directory template project w.files f := by
  -- Every stage starts in what the one before has left, with more shown.
  rcases makeDirectory_outcome hproject { w with shown := w.shown ++ _ } with
    ⟨made, hmade⟩ | ⟨fault, hfault⟩ | ⟨made, hmade, hdeep⟩
  rotate_left
  · exact .inr (.inl ⟨fault, .later (Action.display_apply _ _) hfault.first⟩)
  · exact .inr (.inr ⟨_, .deepPath hmade hdeep⟩)
  obtain ⟨goal, -, hgoal, -⟩ := Files.makeDirectories_fresh hmade
  rcases copyTemplate_outcome (w := { w with files := made, shown := w.shown ++ _ }) htemplate
      hproject hnull.gitignoreSource hgoal with
    ⟨copied, ignoring, hfound, hcopied, hignoring⟩ | ⟨fault, hfault⟩ | ⟨found, hfound, hlong⟩ |
    ⟨copied, source, hfound, hcopied, hsource, hdeep⟩
  rotate_left
  · exact .inr (.inl ⟨fault, .later (Action.display_apply _ _)
      (.later (makeDirectory_ok hmade) hfault.first)⟩)
  · exact .inr (.inr ⟨_, .longTemplate hmade hfound hlong⟩)
  · exact .inr (.inr ⟨_, .deepTree hmade hfound hcopied hsource hgoal hdeep⟩)
  rcases customize_outcome (hasNull_manifestPath hnull hproject) hname
      { w with files := ignoring, shown := w.shown ++ _ ++ _ } with
    ⟨manifest, t, hread, hwritten⟩ | ⟨fault, hfault⟩ | ⟨bytes, piece, hread, hdecoded⟩
  · exact .inl ⟨t, .intro hmade hfound hcopied hignoring hread hwritten⟩
  · exact .inr (.inl ⟨fault, .later (Action.display_apply _ _)
      (.later (makeDirectory_ok hmade) (.later (copyTemplate_ok hfound hcopied hignoring)
        (.later (Action.display_apply _ _) hfault)))⟩)
  · refine .inr (.inr ⟨_, .noText hmade hfound hcopied hignoring hread hdecoded fun s hs => ?_⟩)
    rw [Utf8.decode_encode hs] at hdecoded
    cases hdecoded

/-- What is overlooked is passed on. -/
theorem furnish_of_overlooked
    (h : Overlooked settings w.directory template project w.files f) :
    FailsWith (furnish settings template project name) w f := by
  refine .later (Action.display_apply _ _) ?_
  cases h with
  | deepPath hmade =>
    exact (makeDirectory_deepPath (w := { w with shown := w.shown ++ _ }) hmade).first
  | longTemplate hmade hfound =>
    exact .later (makeDirectory_ok hmade) (copyTemplate_longTemplate hfound).first
  | deepTree hmade hfound hcopied =>
    exact .later (makeDirectory_ok hmade) (copyTemplate_deepTree hfound hcopied).first
  | noText hmade hfound hcopied hignoring hread hdecoded =>
    exact .later (makeDirectory_ok hmade) (.later (copyTemplate_ok hfound hcopied hignoring)
      (.later (Action.display_apply _ _) (customize_noText hread hdecoded)))

/-- A command fails by its own failure, where processes are regular. -/
theorem pursuit_failure (hregular : w.Regular) {steps : List SetUpStep}
    (h : (pursuit w steps).2 = some f) : ∃ line code stderr, f = .command line code stderr := by
  obtain ⟨before, s, -, hobjection⟩ := Workshop.pursued_objection h
  have hanswer := hregular.answer_ran (before.map (·.invocation)) s.invocation
  cases houtcome : (w.ran (before.map (·.invocation))).answer s.invocation with
  | exited code output stderr =>
    rw [houtcome, stepFailure?] at hobjection
    split at hobjection <;> cases hobjection
    exact ⟨_, _, _, rfl⟩
  | failed g =>
    rw [houtcome] at hanswer hobjection
    obtain ⟨e, rfl⟩ := hanswer
    cases hobjection
    exact ⟨_, _, _, rfl⟩

/-- And so it is what making a project fails with. -/
theorem create_of_overlooked (haccepts : ProjectName.accepts name = true)
    (h : Overlooked settings w.directory (settings.templateDir.child tpl.directory)
      (directory.child name) w.files f) : FailsWith (create settings directory tpl name) w f := by
  rw [create_of_accepts haccepts]
  exact (furnish_of_overlooked h).first

/-- No path of the small workshop holds U+0000. -/
theorem nullFree_trial : NullFree trial ⟨.here, []⟩ where
  directory := rfl
  templateDir := by decide
  gitignoreSource := by decide
  manifestDir := by decide
  manifestName := by decide

/-- There a byte that starts no code point is overlooked. -/
theorem overlooked_yard : ∃ piece,
    Overlooked trial [] (trial.templateDir.child (Template.directory .llmChat))
      (Path.child ⟨.here, []⟩ (text "p")) (plot [255]) (.undecodable piece) := by
  obtain ⟨copied, ignoring, hmade, hfound, hcopied, hignoring, hread, -, -⟩ := plot_copied [255]
  cases hdecoded : Utf8.decode [255] with
  | ok s => cases hdecoded
  | error piece =>
    refine ⟨piece, ?_⟩
    rw [child_p]
    refine .noText hmade hfound hcopied hignoring hread hdecoded fun s hs => ?_
    rw [Utf8.decode_encode hs] at hdecoded
    cases hdecoded

end Project

end AgentWorkshop
