import AgentWorkshop.Proofs.Files.Arrival
import AgentWorkshop.Proofs.Project.NameRule
import AgentWorkshop.Proofs.Project.Processes
import AgentWorkshop.Proofs.Project.Tree
import AgentWorkshop.Proofs.Text.Utf8

/-!
# How a project is furnished

The stages of furnishing a project in a tree where everything stands in a directory
(`Furnishing`): the project's directory is made, and is empty; the template is copied; then two
files are written, the `.gitignore` and the manifest. So the files of a template are carried over
but for those under names that are left out, wherever these stand (`files_carried`). The first
command of the set-up finds the project so (`furnished_of_launched`).
-/

namespace AgentWorkshop

namespace Project

open Files (Leads up)

variable {settings : ScaffoldSettings} {here : Address} {directory template project : Path}
variable {tpl : Template} {name : Text} {w : Workshop} {t t' : FileTree}

/-- The stages of furnishing a project: the trees after its directory is made and after the
template is copied, the contents of the `.gitignore`, and the text of the manifest with the file
that holds it and what that is filled with. -/
structure Furnishing (settings : ScaffoldSettings) (here : Address) (template project : Path)
    (name : Text) (t : FileTree) where
  made : FileTree
  source : Address
  goal : Address
  hmade : Files.makeDirectories false here project t = .ok () made
  hsource : Leads made here template source
  hgoal : Leads made here project goal
  hnew : t.get? goal = none
  rooted : made.Rooted
  hhere : made.get? here = some .directory
  empty : ∀ rel, rel ≠ [] → made.get? (goal ++ rel) = none
  copied : FileTree
  hcopied : Files.copyTree (isLeftOut settings) Files.levelLimit template project source goal made =
    .ok [] copied
  gitignore : Bytes
  hgitignore : Files.destination copied here (project.child (text ".gitignore")) =
    .ok (goal ++ [text ".gitignore"])
  manifest : Text
  contents : Bytes
  hread : Files.contents (copied.fill (goal ++ [text ".gitignore"]) gitignore) here
    (manifestPath settings project) = .ok contents
  hmanifest : Utf8.encode manifest = .ok contents
  place : Address
  hplace : Files.destination (copied.fill (goal ++ [text ".gitignore"]) gitignore) here
    (manifestPath settings project) = .ok place
  written : Bytes
  hwritten : Utf8.encode
    (Text.replaceFirst settings.placeholder name manifest.normalizeNewlines) = .ok written

/-- The tree with the template and its `.gitignore`. -/
def Furnishing.ignoring (F : Furnishing settings here template project name t) : FileTree :=
  F.copied.fill (F.goal ++ [text ".gitignore"]) F.gitignore

/-- The tree that is left. -/
def Furnishing.furnished (F : Furnishing settings here template project name t) : FileTree :=
  F.ignoring.fill F.place F.written

/-! ## Directories stay -/

/-- No directory is lost when a tree is copied to an empty one. -/
theorem directories_kept {source target : Path} {sourceAddress goal b : Address}
    {ignored : Text → Bool} {levels : Nat} {faults : List EntryFault}
    (hgoal : t.get? goal = some .directory) (hempty : ∀ rel, rel ≠ [] → t.get? (goal ++ rel) = none)
    (hcopy : Files.copyTree ignored levels source target sourceAddress goal t = .ok faults t')
    (hb : t.get? b = some .directory) : t'.get? b = some .directory := by
  have hsame := Files.copyTree_sameBut ignored levels hcopy
  have hopened : Files.opened t goal = t := by
    rw [Files.opened, hgoal]
    rfl
  rw [hopened] at hsame
  rw [hsame b, hb]
  rintro ⟨n, -, rel, rfl, -⟩
  rw [List.append_assoc, hempty _ (by simp)] at hb
  cases hb

/-- **A furnished project went through the stages.** -/
theorem exists_furnishing (hr : t.Rooted) (hhere : t.get? here = some .directory)
    (h : Furnished settings here template project name t t') :
    ∃ F : Furnishing settings here template project name t, F.furnished = t' := by
  obtain ⟨hmade, hfound, hcopied, hignoring, hread, hwritten⟩ := h
  obtain ⟨goal, hnew, hgoal, hempty⟩ := Files.makeDirectories_fresh hmade
  obtain ⟨-, source, hsource⟩ := Files.leads_of_isDirectory hfound
  have hmade' := Files.made_of_makeDirectories hmade
  have hr' := hmade'.rooted hr hhere
  have hhere' := hmade'.kept hhere
  have hempty' := hempty hr hhere
  have hcopy := copyTree_of_copyAll hsource hgoal hcopied
  have hgoal' := hgoal.get? hr' hhere'
  have hkept {b : Address} := directories_kept (b := b) hgoal' hempty' hcopy
  obtain ⟨bytes, a, -, hwrite, rfl⟩ := Files.copyFile_ok hignoring
  have ha : a = goal ++ [text ".gitignore"] :=
    (hgoal.mono fun _ => hkept).eq_of_destination (by decide) (by simp) hwrite
  subst ha
  obtain ⟨-, contents, manifest, hcontents, hdecoded, rfl⟩ := Files.readText_ok hread
  obtain ⟨place, written, hplace, hencoded, rfl⟩ := Files.writeText_ok hwritten
  exact ⟨{
    made := _, source, goal, hmade, hsource, hgoal, hnew, rooted := hr', hhere := hhere',
    empty := hempty', copied := _, hcopied := hcopy, gitignore := bytes, hgitignore := hwrite,
    manifest, contents, hread := hcontents, hmanifest := Utf8.decode_eq_ok_iff.1 hdecoded,
    place, hplace, written, hwritten := hencoded }, rfl⟩

namespace Furnishing

variable (F : Furnishing settings here template project name t)
variable {rel : Address} {b : Address} {bytes : Bytes} {e : Entry}
include F

/-! ## What stands where -/

/-- The files are those from before. -/
theorem get?_made_eq_file_iff :
    F.made.get? b = some (.file bytes) ↔ t.get? b = some (.file bytes) := by
  have hmade := Files.made_of_makeDirectories F.hmade
  constructor
  · intro h
    rcases hmade.made b with hsame | ⟨-, hdirectory, -⟩
    · rwa [← hsame]
    · rw [hdirectory] at h
      cases h
  · exact hmade.kept

theorem sameBut_copied :
    Files.SameBut (Files.Below (isLeftOut settings) F.goal) F.made F.copied := by
  have hopened : Files.opened F.made F.goal = F.made := by
    rw [Files.opened, F.hgoal.get? F.rooted F.hhere]
    rfl
  rw [← hopened]
  exact Files.copyTree_sameBut _ _ F.hcopied

/-- No file of the template stands in the project, and none in the place of the template. -/
theorem not_prefix_of_file (hfile : t.get? (F.source ++ rel) = some (.file bytes)) :
    rel ≠ [] ∧ ¬ F.goal <+: F.source ++ rel := by
  have hmade := F.get?_made_eq_file_iff.2 hfile
  refine ⟨?_, ?_⟩
  · rintro rfl
    rw [List.append_nil, F.hsource.get? F.rooted F.hhere] at hmade
    cases hmade
  · rintro ⟨rel', hrel'⟩
    rw [← hrel'] at hmade
    by_cases hnil : rel' = []
    · rw [hnil, List.append_nil, F.hgoal.get? F.rooted F.hhere] at hmade
      cases hmade
    · rw [F.empty _ hnil] at hmade
      cases hmade

/-- **A file of the template is copied** if it stands under no name that is left out. -/
theorem get?_copied (hfile : t.get? (F.source ++ rel) = some (.file bytes))
    (hkept : rel.any (isLeftOut settings) = false) :
    F.copied.get? (F.goal ++ rel) = some (.file bytes) := by
  obtain ⟨hrel, hgoal⟩ := F.not_prefix_of_file hfile
  exact Files.copyTree_arrives _ _ F.hcopied
    (Files.stored_of_rooted F.rooted (F.get?_made_eq_file_iff.2 hfile)) hrel hkept hgoal

/-- **Nothing is copied under a name that is left out.** -/
theorem get?_copied_eq_none (hleft : rel.any (isLeftOut settings) = true) :
    F.copied.get? (F.goal ++ rel) = none := by
  have hrel : rel ≠ [] := by
    rintro rfl
    cases hleft
  rw [F.sameBut_copied, F.empty _ hrel]
  rw [Files.below_append_iff, hleft]
  simp

theorem get?_ignoring (hrel : rel ≠ [text ".gitignore"]) :
    F.ignoring.get? (F.goal ++ rel) = F.copied.get? (F.goal ++ rel) :=
  FileTree.get?_fill_of_ne (fun heq => hrel (List.append_cancel_left heq)) _

/-- No directory is lost. -/
theorem get?_ignoring_directory (hb : F.made.get? b = some .directory) :
    F.ignoring.get? b = some .directory :=
  get?_fill_of_directory F.gitignore F.hgitignore
    (directories_kept (F.hgoal.get? F.rooted F.hhere) F.empty F.hcopied hb)

theorem get?_ignoring_gitignore :
    F.ignoring.get? (F.goal ++ [text ".gitignore"]) = some (.file F.gitignore) :=
  FileTree.get?_fill_self (by simp) (gitignore_ne_nullDevice F.goal) _

/-- The manifest is a file before it is written. -/
theorem get?_place : F.ignoring.get? F.place = some (.file F.contents) := by
  obtain ⟨a, ha, hfile⟩ := Files.destination_of_contents F.hread
  rw [F.hplace] at ha
  cases ha
  exact hfile

/-- Where the manifest is not, nothing is changed by writing it. -/
theorem get?_furnished_of_ne (hb : b ≠ F.place) : F.furnished.get? b = F.ignoring.get? b :=
  FileTree.get?_fill_of_ne hb _

/-- And where it is, there is a file, with what is written unless that is the device that
swallows everything. -/
theorem get?_furnished_place (hnull : F.place ≠ FileTree.nullDevice) :
    F.furnished.get? F.place = some (.file F.written) := by
  refine FileTree.get?_fill_self ?_ hnull _
  intro hnil
  have hplace := F.get?_place
  rw [hnil] at hplace
  cases hplace

/-- Writing the manifest neither adds a file nor takes one away. -/
theorem file_furnished_iff :
    (∃ x, F.furnished.get? b = some (.file x)) ↔ ∃ x, F.ignoring.get? b = some (.file x) := by
  by_cases hnull : F.place = FileTree.nullDevice
  · rw [furnished, FileTree.fill, if_pos hnull]
  by_cases hb : b = F.place
  · rw [hb]
    exact iff_of_true ⟨_, F.get?_furnished_place hnull⟩ ⟨_, F.get?_place⟩
  · rw [F.get?_furnished_of_ne hb]

/-- The path of the manifest still leads there. -/
theorem destination_furnished :
    Files.destination F.furnished here (manifestPath settings project) = .ok F.place :=
  Files.destination_fill F.written F.hplace

/-- **Which files of the template a project has.** -/
theorem file_iff (hfile : t.get? (F.source ++ rel) = some (.file bytes)) :
    (∃ x, F.furnished.get? (F.goal ++ rel) = some (.file x)) ↔
      rel = [text ".gitignore"] ∨ ∀ n ∈ rel, isLeftOut settings n = false := by
  rw [F.file_furnished_iff]
  by_cases hrel : rel = [text ".gitignore"]
  · rw [hrel, F.get?_ignoring_gitignore]
    simp
  rw [F.get?_ignoring hrel, or_iff_right hrel]
  cases hleft : rel.any (isLeftOut settings) with
  | true =>
    rw [F.get?_copied_eq_none hleft]
    simpa using hleft
  | false =>
    rw [F.get?_copied hfile hleft]
    simpa using hleft

/-- **And what they hold**: what they hold in the template, unless the manifest's path leads
there. -/
theorem get?_furnished (hfile : t.get? (F.source ++ rel) = some (.file bytes))
    (hgitignore : rel ≠ [text ".gitignore"]) (hkept : ∀ n ∈ rel, isLeftOut settings n = false) :
    F.furnished.get? (F.goal ++ rel) = some (.file bytes) ∨
      Files.destination F.furnished here (manifestPath settings project) = .ok (F.goal ++ rel) := by
  by_cases hplace : F.goal ++ rel = F.place
  · rw [hplace]
    exact .inr F.destination_furnished
  · rw [F.get?_furnished_of_ne hplace, F.get?_ignoring hgitignore]
    exact .inl (F.get?_copied hfile (by simpa using hkept))

end Furnishing

/-! ## What the set-up finds -/

/-- The record of the first command of the set-up, with the tree that it finds. -/
def firstLaunch (directory : Path) (name : Text) (w : Workshop) (t : FileTree) : Launch :=
  ⟨setUpInvocation [text "git", text "init"] (directory.child name), t, w.phase, w.history⟩

section
variable (haccepts : ProjectName.accepts name = true)
variable (hfurnished : Furnished settings w.directory (settings.templateDir.child tpl.directory)
  (directory.child name) name w.files t)
include haccepts hfurnished

/-- **A furnished project is set up**, whatever the processes do to files. -/
theorem create_pursuit : ∃ shown, create settings directory tpl name w =
    ended (directory.child name)
      (pursuit { w with files := t } (setUpSteps settings directory (directory.child name))).2
      { Workshop.ran { w with files := t }
          ((pursuit { w with files := t }
            (setUpSteps settings directory (directory.child name))).1.map (·.invocation)) with
        shown := shown } := by
  obtain ⟨shown, hfurnish⟩ := furnish_of_furnished hfurnished
  obtain ⟨shown', hperform⟩ := perform_pursuit
    (setUpSteps settings directory (directory.child name)) { w with files := t, shown := shown }
  have hpursuit : pursuit { w with files := t, shown := shown } =
      pursuit { w with files := t } := by
    funext steps
    exact Workshop.pursued_shown { w with files := t } shown steps
  have hran := Workshop.ran_shown { w with files := t } shown
  rw [hpursuit, hran] at hperform
  rw [create_of_accepts haccepts, Step.bind_ok hfurnish, setUp]
  cases hend : (pursuit { w with files := t }
      (setUpSteps settings directory (directory.child name))).2 with
  | none =>
    rw [hend] at hperform
    rw [Step.bind_ok hperform]
    exact ⟨_, rfl⟩
  | some f =>
    rw [hend] at hperform
    rw [Step.bind_error hperform]
    exact ⟨_, rfl⟩

/-- The first command finds the project as it was furnished, and it is left so by processes that
touch no file. -/
theorem launched_of_furnished :
    (∃ rest, ((create settings directory tpl name).after w).launches =
      w.launches ++ firstLaunch directory name w t :: rest) ∧
    (w.Untouching → ((create settings directory tpl name).after w).files = t) := by
  obtain ⟨shown, hcreate⟩ := create_pursuit haccepts hfurnished
  have hafter : (create settings directory tpl name).after w =
      { Workshop.ran { w with files := t }
          ((pursuit { w with files := t }
            (setUpSteps settings directory (directory.child name))).1.map (·.invocation)) with
        shown := shown } := by
    cases hend : (pursuit { w with files := t }
        (setUpSteps settings directory (directory.child name))).2 with
    | none =>
      rw [hend] at hcreate
      exact Action.after_ok hcreate
    | some f =>
      rw [hend] at hcreate
      exact Action.after_error hcreate
  rw [hafter]
  refine ⟨?_, fun huntouching => Workshop.Untouching.ran_files (w := { w with files := t })
    huntouching _⟩
  -- Whether it fails or not, the first step is run.
  obtain ⟨steps, hsteps⟩ : ∃ steps, (pursuit { w with files := t }
      (setUpSteps settings directory (directory.child name))).1 =
        ⟨text "Initializing git repository...", [text "git", text "init"],
          directory.child name⟩ :: steps := by
    rw [pursuit, setUpSteps, Workshop.pursued]
    split <;> exact ⟨_, rfl⟩
  rw [hsteps]
  obtain ⟨rest, hrest⟩ := Workshop.launches_prefix_ran (Workshop.once { w with files := t }
    (setUpInvocation [text "git", text "init"] (directory.child name)))
    (steps.map (·.invocation))
  refine ⟨rest, hrest.symm.trans ?_⟩
  exact List.append_assoc _ _ _

end

/-- **Once a command of the set-up is run the project is furnished.** -/
theorem furnished_of_launched
    (hlaunched : ((create settings directory tpl name).after w).launches ≠ w.launches) :
    ∃ t, ProjectName.accepts name = true ∧
      Furnished settings w.directory (settings.templateDir.child tpl.directory)
        (directory.child name) name w.files t ∧
      (∃ rest, ((create settings directory tpl name).after w).launches =
        w.launches ++ firstLaunch directory name w t :: rest) ∧
      (w.Untouching → ((create settings directory tpl name).after w).files = t) := by
  rcases create_cases settings directory tpl name w with
    ⟨-, hcreate⟩ | ⟨-, f, t, shown, hcreate⟩ | ⟨haccepts, t, hfurnished⟩
  · exact absurd (by rw [Action.after_error hcreate]) hlaunched
  · exact absurd (by rw [Action.after_error hcreate]) hlaunched
  · exact ⟨t, haccepts, hfurnished, launched_of_furnished haccepts hfurnished⟩

/-- And a command was run if the project was made. -/
theorem launched_of_created {path : Path} {w' : Workshop}
    (hcreated : create settings directory tpl name w = .ok path w') :
    ((create settings directory tpl name).after w).launches ≠ w.launches := by
  rcases create_cases settings directory tpl name w with
    ⟨-, hcreate⟩ | ⟨-, f, t, shown, hcreate⟩ | ⟨haccepts, t, hfurnished⟩
  · rw [hcreate] at hcreated
    cases hcreated
  · rw [hcreate] at hcreated
    cases hcreated
  · obtain ⟨⟨rest, hrest⟩, -⟩ := launched_of_furnished haccepts hfurnished
    rw [hrest]
    simp

/-! ## The files of the template -/

/-- **What a project has of its template.** Where a project is made, a file of the template is in
the project's directory, before any command is run and afterwards if no command touches a file,
exactly if none of the names that lead to it in the template is left out; whatever is at
`.gitignore` is a file anyway. Unless the manifest's path leads there it holds what it holds in the
template. As usual the names `gitignore` and `__pycache__` are left out. -/
theorem files_carried (settings : ScaffoldSettings) (directory : Path) (tpl : Template)
    (name : Text) (hr : w.files.Rooted) (hhere : w.files.get? w.directory = some .directory)
    {path : Path} {w' : Workshop}
    (hcreated : create settings directory tpl name w = .ok path w') :
    path = directory.child name ∧
    ∃ made source goal l rest,
      Files.makeDirectories false w.directory (directory.child name) w.files = .ok () made ∧
      Leads made w.directory (settings.templateDir.child tpl.directory) source ∧
      Leads made w.directory (directory.child name) goal ∧
      w'.launches = w.launches ++ l :: rest ∧ (w.Untouching → w'.files = l.files) ∧
      (∀ rel bytes, w.files.get? (source ++ rel) = some (.file bytes) →
        ((∃ x, l.files.get? (goal ++ rel) = some (.file x)) ↔
          rel = [text ".gitignore"] ∨ ∀ n ∈ rel, isLeftOut settings n = false) ∧
        (rel ≠ [text ".gitignore"] → (∀ n ∈ rel, isLeftOut settings n = false) →
          l.files.get? (goal ++ rel) = some (.file bytes) ∨
            Files.destination l.files w.directory (manifestPath settings (directory.child name)) =
              .ok (goal ++ rel))) ∧
      (settings.gitignoreSource = ScaffoldSettings.usual.gitignoreSource →
        ∀ n, isLeftOut settings n = true ↔ n = text "gitignore" ∨ n = text "__pycache__") := by
  obtain ⟨t, haccepts, hfurnished, ⟨rest, hrest⟩, hfiles⟩ :=
    furnished_of_launched (launched_of_created hcreated)
  obtain ⟨F, hF⟩ := exists_furnishing hr hhere hfurnished
  rw [Action.after_ok hcreated] at hrest hfiles
  refine ⟨(path_of_create hcreated).2, F.made, F.source, F.goal, firstLaunch directory name w t,
    rest, F.hmade, F.hsource, F.hgoal, hrest, hfiles, fun rel bytes hfile => ?_,
    fun husual n => ?_⟩
  · rw [firstLaunch, ← hF]
    exact ⟨F.file_iff hfile, F.get?_furnished hfile⟩
  · rw [isLeftOut_usual husual, decide_eq_true_eq]

/-! ## A small workshop -/

/-- A template of a manifest, its `.gitignore` and a file of the same name further down. -/
def plot (manifest : Bytes) : FileTree :=
  ((FileTree.empty.place [text "tpl", text "agent", text "gitignore"] (.file [10])).place
    [text "tpl", text "agent", text "agent-template", text "Cargo.toml"] (.file manifest)).place
    [text "tpl", text "agent", text "host", text "gitignore"] (.file [104])

/-- A workshop at the top of it, where every process succeeds. -/
def yard (manifest : Bytes) : Workshop :=
  .initial (plot manifest) [] fun _ => .idle

/-- Everything in it stands in a directory. -/
theorem rooted_plot (manifest : Bytes) : (plot manifest).Rooted := by
  have haddresses : (plot manifest).entries.map (·.1) =
      [[text "tpl", text "agent", text "host", text "gitignore"],
        [text "tpl", text "agent", text "host"],
        [text "tpl", text "agent", text "agent-template", text "Cargo.toml"],
        [text "tpl", text "agent", text "agent-template"],
        [text "tpl", text "agent", text "gitignore"], [text "tpl", text "agent"],
        [text "tpl"]] := by cbv
  have habove : ∀ a ∈ (plot manifest).entries.map (·.1),
      (plot manifest).get? a.dropLast = some .directory := by
    rw [haddresses]
    simp only [List.forall_mem_cons, List.dropLast]
    exact ⟨by cbv, by cbv, by cbv, by cbv, by cbv, by cbv, by cbv, by simp⟩
  exact FileTree.rooted_of_entries fun e he => habove _ (List.mem_map_of_mem he)

/-- It has its manifest where that usually is. -/
theorem plot_manifest (manifest : Bytes) :
    (plot manifest).get? ([text "tpl", text "agent"] ++ manifestNames) = some (.file manifest) := by
  cbv

/-- The template is copied there. -/
theorem plot_copied (manifest : Bytes) : ∃ copied ignoring : FileTree,
    Files.makeDirectories false [] ⟨.here, [text "p"]⟩ (plot manifest) =
      .ok () ((plot manifest).set [text "p"] .directory) ∧
    Files.isDirectory [] (trial.templateDir.child (Template.directory .llmChat))
        ((plot manifest).set [text "p"] .directory) =
      .ok true ((plot manifest).set [text "p"] .directory) ∧
    copyAll trial (trial.templateDir.child (Template.directory .llmChat)) ⟨.here, [text "p"]⟩ []
      ((plot manifest).set [text "p"] .directory) = .ok [] copied ∧
    Files.copyFile [] ((trial.templateDir.child (Template.directory .llmChat)).child
      trial.gitignoreSource) (Path.child ⟨.here, [text "p"]⟩ (text ".gitignore")) copied =
        .ok (.ok ()) ignoring ∧
    Files.contents ignoring [] (manifestPath trial ⟨.here, [text "p"]⟩) = .ok manifest ∧
    Files.destination ignoring [] (manifestPath trial ⟨.here, [text "p"]⟩) =
      .ok [text "p", text "agent-template", text "Cargo.toml"] ∧
    ignoring.get? [text "p", text "host", text "gitignore"] = none := by
  exact ⟨_, _, by cbv, by cbv, by cbv, by cbv, by cbv, by cbv, by cbv⟩

/-- The path of the project there. -/
theorem child_p : Path.child ⟨.here, []⟩ (text "p") = ⟨.here, [text "p"]⟩ := by cbv

/-- The template and the project there. -/
theorem plot_places {manifest : Bytes} {made : FileTree} {source goal : Address}
    (hmade : Files.makeDirectories false [] (Path.child ⟨.here, []⟩ (text "p")) (plot manifest) =
      .ok () made)
    (hsource : Leads made [] (trial.templateDir.child (Template.directory .llmChat)) source)
    (hgoal : Leads made [] (Path.child ⟨.here, []⟩ (text "p")) goal) :
    source = [text "tpl", text "agent"] ∧ goal = [text "p"] := by
  rw [child_p] at hmade hgoal
  obtain ⟨-, -, hnew, -⟩ := plot_copied manifest
  cases hmade.symm.trans hnew
  have hsource' : Leads ((plot manifest).set [text "p"] .directory) []
      (trial.templateDir.child (Template.directory .llmChat)) [text "tpl", text "agent"] := by cbv
  have hgoal' : Leads ((plot manifest).set [text "p"] .directory) [] ⟨.here, [text "p"]⟩
      [text "p"] := by cbv
  exact ⟨hsource.unique hsource', hgoal.unique hgoal'⟩

/-- **The project is made there**, with any manifest that can be read. -/
theorem yard_created {manifest written : Bytes} {m : Text}
    (hmanifest : Utf8.encode m = .ok manifest)
    (hwritten : Utf8.encode (Text.replaceFirst trial.placeholder (text "p") m.normalizeNewlines) =
      .ok written) :
    ∃ w', create trial ⟨.here, []⟩ .llmChat (text "p") (yard manifest) =
        .ok (Path.child ⟨.here, []⟩ (text "p")) w' ∧
      w'.files.get? [text "p", text "agent-template", text "Cargo.toml"] =
        some (.file written) ∧
      w'.files.get? [text "p", text "host", text "gitignore"] = none := by
  obtain ⟨copied, ignoring, hmade, hfound, hcopied, hignoring, hread, hwrite, hnone⟩ :=
    plot_copied manifest
  have hfurnished : Furnished trial [] (trial.templateDir.child (Template.directory .llmChat))
      (Path.child ⟨.here, []⟩ (text "p")) (text "p") (plot manifest)
      (ignoring.fill [text "p", text "agent-template", text "Cargo.toml"] written) := by
    rw [child_p]
    have hmanifest' : Files.readText [] (manifestPath trial ⟨.here, [text "p"]⟩) ignoring =
        .ok m.normalizeNewlines ignoring := by
      rw [Files.readText_apply, hread]
      dsimp only
      rw [Utf8.decode_encode hmanifest]
    refine .intro hmade hfound hcopied hignoring hmanifest' ?_
    rw [Files.writeText_apply, hwrite]
    dsimp only
    rw [hwritten]
  have huntouching : (yard manifest).Untouching := fun _ _ _ => rfl
  have haccepts : ProjectName.accepts (text "p") = true := by decide
  obtain ⟨w', hcreate⟩ := (create_ok_iff (w := yard manifest) huntouching haccepts
    hfurnished _).2 ⟨rfl, performed_ok fun _ _ _ => ⟨[], [], rfl⟩⟩
  have hfiles := (launched_of_furnished (w := yard manifest) haccepts
    hfurnished).2 huntouching
  rw [Action.after_ok hcreate] at hfiles
  refine ⟨w', hcreate, ?_, ?_⟩ <;> rw [hfiles]
  · exact FileTree.get?_fill_self (by simp) (by decide) _
  · exact (FileTree.get?_fill_of_ne (by decide) _).trans hnone

/-- With a manifest of one letter, for instance. -/
theorem yard_letter : ∃ w', create trial ⟨.here, []⟩ .llmChat (text "p") (yard [65]) =
      .ok (Path.child ⟨.here, []⟩ (text "p")) w' ∧
    w'.files.get? [text "p", text "host", text "gitignore"] = none := by
  have hmanifest : Utf8.encode [65] = .ok [65] := by decide
  have hwritten : Utf8.encode (Text.replaceFirst trial.placeholder (text "p")
      (Text.normalizeNewlines [65])) = .ok [65] := by decide
  obtain ⟨w', hcreated, -, hnone⟩ := yard_created hmanifest hwritten
  exact ⟨w', hcreated, hnone⟩

/-- There the manifest is carried over. -/
theorem files_carried_manifest : ∃ w', create trial ⟨.here, []⟩ .llmChat (text "p") (yard [65]) =
      .ok (Path.child ⟨.here, []⟩ (text "p")) w' ∧
    ∃ x, w'.files.get? [text "p", text "agent-template", text "Cargo.toml"] =
      some (.file x) := by
  obtain ⟨w', hcreated, -⟩ := yard_letter
  obtain ⟨-, made, source, goal, l, rest, hmade, hsource, hgoal, -, hfiles, hcarried, husual⟩ :=
    files_carried trial ⟨.here, []⟩ .llmChat (text "p") (rooted_plot [65]) rfl hcreated
  obtain ⟨rfl, rfl⟩ := plot_places hmade hsource hgoal
  have hkept : ∀ n ∈ manifestNames, isLeftOut trial n = false := by
    simp only [← Bool.not_eq_true, husual rfl]
    decide
  refine ⟨w', hcreated, ?_⟩
  rw [hfiles fun _ _ _ => rfl]
  exact (hcarried manifestNames [65] (plot_manifest _)).1.2 (.inr hkept)

/-- **A file further down is left out by its name.** It is none that is kept elsewhere. -/
theorem nested_gitignore_lost : ∃ w',
    create trial ⟨.here, []⟩ .llmChat (text "p") (yard [65]) =
      .ok (Path.child ⟨.here, []⟩ (text "p")) w' ∧
    (yard [65]).files.get? [text "tpl", text "agent", text "host", text "gitignore"] =
      some (.file [104]) ∧
    w'.files.get? [text "p", text "host", text "gitignore"] = none := by
  obtain ⟨w', hcreated, hnone⟩ := yard_letter
  have hthere : (plot [65]).get? [text "tpl", text "agent", text "host", text "gitignore"] =
      some (.file [104]) := by cbv
  exact ⟨w', hcreated, hthere, hnone⟩

end Project

end AgentWorkshop
