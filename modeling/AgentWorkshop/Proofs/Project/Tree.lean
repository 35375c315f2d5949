import AgentWorkshop.Proofs.Files.Copy
import AgentWorkshop.Proofs.Project.Course
import AgentWorkshop.Proofs.Project.Names

/-!
# The tree of a project

A furnished project holds its template, entry for entry, without the names that are left
out; its `.gitignore` is the one that the template keeps under another name, and its manifest
is its own (`Laid`, `laid_of_furnished`). Everywhere else only directories are made on the way to
the project. So once a command of the set-up is run the whole tree is known (`create_tree`).
-/

namespace AgentWorkshop

namespace Project

open Files (Leads Made Copied kept up)

variable {settings : ScaffoldSettings} {here : Address} {directory template project : Path}
variable {tpl : Template} {name : Text} {w : Workshop} {t t' : FileTree}
variable {source goal : Address}

/-- The names of the manifest below a project. -/
def manifestNames : List Text :=
  [text "agent-template", text "Cargo.toml"]

/-- The settings name the manifest and the `.gitignore` of a template as usual. -/
structure NamedAsUsual (settings : ScaffoldSettings) : Prop where
  manifestDir : settings.manifestDir = ScaffoldSettings.usual.manifestDir
  manifestName : settings.manifestName = ScaffoldSettings.usual.manifestName
  gitignoreSource : settings.gitignoreSource = ScaffoldSettings.usual.gitignoreSource

/-- **What a furnished project holds**, given the tree in which its directory was made. -/
structure Laid (ignored : Text → Bool) (source goal : Address) (made t : FileTree) : Prop where
  outside : ∀ b, ¬ goal <+: b → t.get? b = made.get? b
  directories : ∀ b, made.get? b = some .directory → t.get? b = some .directory
  copy : ∀ rel, rel ≠ [text ".gitignore"] → rel ≠ manifestNames →
    t.get? (goal ++ rel) = kept ignored (fun rel => made.get? (source ++ rel)) rel
  gitignore : ∃ bytes, made.get? (source ++ [text "gitignore"]) = some (.file bytes) ∧
    t.get? (goal ++ [text ".gitignore"]) = some (.file bytes)

/-- Copying everything from one directory to another is copying the tree. -/
theorem copyAll_of_leads (hnull : template.hasNull = false) (hnull' : project.hasNull = false)
    (hsource : Leads t here template source) (hgoal : Leads t here project goal) :
    copyAll settings template project here t =
      Files.copyTree (isLeftOut settings) Files.levelLimit template project source goal t := by
  rw [copyAll, Step.bind_ok (hsource.find hnull), Step.bind_ok (hgoal.find hnull')]

/-- So if it is done without a fault, the tree is. -/
theorem copyTree_of_copyAll (hsource : Leads t here template source)
    (hgoal : Leads t here project goal)
    (h : copyAll settings template project here t = .ok [] t') :
    Files.copyTree (isLeftOut settings) Files.levelLimit template project source goal t =
      .ok [] t' := by
  rw [Leads] at hsource hgoal
  rw [copyAll, Step.bind_apply, Files.find_apply] at h
  by_cases htemplate : template.hasNull = true
  · rw [if_pos htemplate] at h
    cases h
  rw [if_neg htemplate, hsource] at h
  dsimp only at h
  rw [Step.bind_apply, Files.find_apply] at h
  by_cases hproject : project.hasNull = true
  · rw [if_pos hproject] at h
    cases h
  rw [if_neg hproject, hgoal] at h
  exact h

/-- Neither address is below the other, so nothing is below both. -/
theorem append_ne_append (hsource : ¬ source <+: goal) (hgoal : ¬ goal <+: source)
    (x y : Address) : source ++ x ≠ goal ++ y := by
  intro heq
  rcases List.prefix_or_prefix_of_prefix ⟨x, heq⟩ (List.prefix_append goal y) with h | h
  · exact hsource h
  · exact hgoal h

/-- A template is copied into an empty directory. -/
theorem copied_of_copyAll (hr : t.Rooted) (hhere : t.get? here = some .directory)
    (hsource : Leads t here template source) (hgoal : Leads t here project goal)
    (hapart : ∀ x y, source ++ x ≠ goal ++ y)
    (hempty : ∀ rel, rel ≠ [] → t.get? (goal ++ rel) = none)
    (h : copyAll settings template project here t = .ok [] t') :
    Copied (isLeftOut settings) (fun rel => t.get? (source ++ rel)) goal t t' := by
  refine Files.copyTree_ok _ _ (fun rel n hthere => ?_) (fun _ => rfl) hapart
    (.inr (hgoal.get? hr hhere)) (fun rel hrel => .inl (hempty rel hrel))
    (copyTree_of_copyAll hsource hgoal h)
  rw [← List.append_assoc] at hthere
  exact hr _ n hthere

/-- A template is copied and no directory is lost. -/
theorem directories_of_copied {ignored : Text → Bool} {src : Address → Option Entry}
    (h : Copied ignored src goal t t') (hempty : ∀ rel, rel ≠ [] → t.get? (goal ++ rel) = none)
    {b : Address} (hb : t.get? b = some .directory) : t'.get? b = some .directory := by
  by_cases hbelow : goal <+: b
  · obtain ⟨rel, rfl⟩ := hbelow
    by_cases hrel : rel = []
    · rw [hrel, List.append_nil, h.there]
    · rw [hempty rel hrel] at hb
      cases hb
  · rw [h.outside b hbelow, hb]

/-- No directory is written over. -/
theorem get?_fill_of_directory {p : Path} {a b : Address} (bytes : Bytes)
    (hwrite : Files.destination t here p = .ok a) (hb : t.get? b = some .directory) :
    (t.fill a bytes).get? b = some .directory := by
  rw [FileTree.get?_fill_of_ne, hb]
  rintro rfl
  exact Files.get?_of_destination hwrite hb

/-- The `.gitignore` of a project is not the device that swallows everything. -/
theorem gitignore_ne_nullDevice (goal : Address) :
    goal ++ [text ".gitignore"] ≠ FileTree.nullDevice := by
  intro heq
  have hlast := congrArg List.getLast? heq
  rw [List.getLast?_concat] at hlast
  exact absurd hlast (by decide)

/-- **After the copy** the `.gitignore` and the manifest are written, and nothing else. -/
theorem laid_of_copied {made copied ignoring : FileTree} {manifest : Text}
    (hnamed : NamedAsUsual settings) (hr : made.Rooted) (hhere : made.get? here = some .directory)
    (hsource : Leads made here template source) (hgoal : Leads made here project goal)
    (hapart : ∀ x y, source ++ x ≠ goal ++ y)
    (hempty : ∀ rel, rel ≠ [] → made.get? (goal ++ rel) = none)
    (hcopied : copyAll settings template project here made = .ok [] copied)
    (hignoring : Files.copyFile here (template.child settings.gitignoreSource)
      (project.child (text ".gitignore")) copied = .ok (.ok ()) ignoring)
    (hwritten : Files.writeText here (manifestPath settings project) manifest ignoring =
      .ok () t') :
    Laid (isLeftOut settings) source goal made t' := by
  have hcopy := copied_of_copyAll hr hhere hsource hgoal hapart hempty hcopied
  have hkept {b : Address} := directories_of_copied (b := b) hcopy hempty
  obtain ⟨bytes, a, hread, hwrite, rfl⟩ := Files.copyFile_ok hignoring
  have hfound : copied.get? (source ++ [text "gitignore"]) = some (.file bytes) := by
    rw [hnamed.gitignoreSource] at hread
    exact (hsource.mono fun _ => hkept).get?_of_contents (by decide) (by simp) hread
  have ha : a = goal ++ [text ".gitignore"] :=
    (hgoal.mono fun _ => hkept).eq_of_destination (by decide) (by simp) hwrite
  have hkept' {b : Address} (hb : made.get? b = some .directory) :=
    get?_fill_of_directory bytes hwrite (hkept hb)
  obtain ⟨a', bytes', hmanifest, -, rfl⟩ := Files.writeText_ok hwritten
  have ha' : a' = goal ++ manifestNames := by
    refine (hgoal.mono fun _ => hkept').eq_of_destination (by decide) (by decide) ?_
    rw [manifestPath, hnamed.manifestDir, hnamed.manifestName] at hmanifest
    rwa [manifestNames, List.append_cons]
  refine ⟨fun b hb => ?_, fun b hb => get?_fill_of_directory bytes' hmanifest (hkept' hb),
    fun rel hgitignore hmanifest => ?_, bytes, ?_, ?_⟩
  · have hne (x : Address) : b ≠ goal ++ x := by
      rintro rfl
      exact hb (List.prefix_append _ _)
    rw [ha', ha, FileTree.get?_fill_of_ne (hne _), FileTree.get?_fill_of_ne (hne _),
      hcopy.outside b hb]
  · have hne {x : Address} (hx : rel ≠ x) : goal ++ rel ≠ goal ++ x :=
      fun heq => hx (List.append_cancel_left heq)
    rw [ha', ha, FileTree.get?_fill_of_ne (hne hmanifest),
      FileTree.get?_fill_of_ne (hne hgitignore)]
    by_cases hrel : rel = []
    · rw [hrel, List.append_nil, hcopy.there, kept, List.any_nil, if_neg Bool.false_ne_true,
        List.append_nil, hsource.get? hr hhere]
    · exact hcopy.copy rel hrel
  · rw [← hfound, hcopy.outside]
    rintro ⟨y, hy⟩
    exact hapart _ _ hy.symm
  · rw [ha', ha, FileTree.get?_fill_of_ne, FileTree.get?_fill_self (by simp)
      (gitignore_ne_nullDevice goal)]
    simp [manifestNames]

/-- **What a furnished project is**: its directory is new, and holds the template unless it
was made inside of that. -/
theorem laid_of_furnished (hnamed : NamedAsUsual settings) (hr : t.Rooted)
    (hhere : t.get? here = some .directory)
    (h : Furnished settings here template project name t t') :
    ∃ made source goal, Files.makeDirectories false here project t = .ok () made ∧
      Leads made here template source ∧ Leads made here project goal ∧ t.get? goal = none ∧
      (¬ source <+: goal →
        (∀ rel, ¬ goal <+: source ++ rel) ∧ Laid (isLeftOut settings) source goal made t') := by
  obtain ⟨hmade, hfound, hcopied, hignoring, -, hwritten⟩ := h
  obtain ⟨goal, hnone, hgoal, hempty⟩ := Files.makeDirectories_fresh hmade
  obtain ⟨source, hsource⟩ : ∃ a, Leads _ here template a := by
    rcases Files.isDirectory_apply here template _ with ⟨found, hfound', hleads⟩ | ⟨f, hfound'⟩ <;>
      rw [hfound] at hfound' <;> cases hfound'
    exact hleads rfl
  have hmade' := Files.made_of_makeDirectories hmade
  have hr' := hmade'.rooted hr hhere
  have hhere' := hmade'.kept hhere
  have hempty' := hempty hr hhere
  refine ⟨_, source, goal, hmade, hsource, hgoal, hnone, fun hoverlap => ?_⟩
  have hgoal' : ¬ goal <+: source := by
    rintro ⟨rel, rfl⟩
    by_cases hrel : rel = []
    · rw [hrel, List.append_nil] at hoverlap
      exact hoverlap List.prefix_rfl
    · have hdirectory := hsource.get? hr' hhere'
      rw [hempty' rel hrel] at hdirectory
      cases hdirectory
  have hapart := append_ne_append hoverlap hgoal'
  refine ⟨?_, laid_of_copied hnamed hr' hhere' hsource hgoal hapart hempty' hcopied hignoring
    hwritten⟩
  rintro rel ⟨y, hy⟩
  exact hapart rel y hy.symm

/-- **A project in a tree.** From one tree to the other:

* `copy`: below the goal stands what stands below the source, but for the `.gitignore` and
  the manifest, and nothing under a name that is left out;
* `gitignore`: the `.gitignore` is the template's file of the other name;
* `elsewhere`: nothing else changes, but that missing directories are made where beginnings
  of the path to the project's directory lead, that directory included;
* `template`: none of them lies in the template, if no name of that path leads up. -/
structure Scaffolded (here : Address) (directory : Path) (source goal : Address)
    (t t' : FileTree) : Prop where
  copy : ∀ rel, rel ≠ [text ".gitignore"] → rel ≠ manifestNames →
    t'.get? (goal ++ rel) =
      if ∃ n ∈ rel, n = text "gitignore" ∨ n = text "__pycache__" then none
      else t'.get? (source ++ rel)
  gitignore : ∃ bytes, t'.get? (source ++ [text "gitignore"]) = some (.file bytes) ∧
    t'.get? (goal ++ [text ".gitignore"]) = some (.file bytes)
  elsewhere : ∀ a, ¬ goal <+: a → t'.get? a = t.get? a ∨
    t.get? a = none ∧ t'.get? a = some .directory ∧
      ∃ front, front ≠ [] ∧ front <+: directory.parts ∧ Leads t' here ⟨directory.anchor, front⟩ a
  template : up ∉ directory.parts → ∀ rel, t'.get? (source ++ rel) = t.get? (source ++ rel)

/-- A name that is left out is one of the path's. -/
theorem kept_usual (husual : settings.gitignoreSource = ScaffoldSettings.usual.gitignoreSource)
    (src : Address → Option Entry) (rel : Address) :
    kept (isLeftOut settings) src rel =
      if ∃ n ∈ rel, n = text "gitignore" ∨ n = text "__pycache__" then none else src rel := by
  simp only [kept, isLeftOut_usual husual, List.any_eq_true, decide_eq_true_eq]

/-- What is laid in a tree where directories were made is a project in the tree before. -/
theorem scaffolded_of_laid {made : FileTree}
    (husual : settings.gitignoreSource = ScaffoldSettings.usual.gitignoreSource)
    (haccepts : ProjectName.accepts name = true)
    (hmade : Made here (directory.child name).anchor (directory.child name).parts t made)
    (hgoal : Leads made here (directory.child name) goal) (hoverlap : ¬ source <+: goal)
    (hsource : ∀ rel, ¬ goal <+: source ++ rel)
    (hlaid : Laid (isLeftOut settings) source goal made t') :
    Scaffolded here directory source goal t t' := by
  rw [ProjectName.child_of_accepts haccepts] at hmade hgoal
  have hsame (rel : Address) : t'.get? (source ++ rel) = made.get? (source ++ rel) :=
    hlaid.outside _ (hsource rel)
  have helsewhere : ∀ a, ¬ goal <+: a → t'.get? a = t.get? a ∨
      t.get? a = none ∧ t'.get? a = some .directory ∧
        ∃ front, front ≠ [] ∧ front <+: directory.parts ∧
          Leads t' here ⟨directory.anchor, front⟩ a := by
    intro a ha
    rw [hlaid.outside a ha]
    rcases hmade.made a with hkept | ⟨hnone, hdirectory, front, hne, hfront, hleads⟩
    · exact .inl hkept
    · refine .inr ⟨hnone, hdirectory, front, hne, ?_, hleads.mono hlaid.directories⟩
      -- All of the path leads to the goal.
      rcases List.prefix_concat_iff.1 hfront with rfl | hfront
      · exact absurd (hleads.unique hgoal ▸ List.prefix_rfl) ha
      · exact hfront
  refine ⟨fun rel hgitignore hmanifest => ?_, ?_, helsewhere, fun hup rel => ?_⟩
  · rw [hlaid.copy rel hgitignore hmanifest, kept_usual husual, hsame]
  · simpa only [hsame] using hlaid.gitignore
  · rcases helsewhere _ (hsource rel) with hkept | ⟨-, -, front, -, hfront, hleads⟩
    · exact hkept
    · have hname : up ∉ directory.parts ++ [name] := by
        simp [hup, (ProjectName.ne_up_of_accepts haccepts).symm]
      have habove := hleads.above hgoal (hfront.trans (List.prefix_append _ _)) hname
      exact absurd ((List.prefix_append source rel).trans habove) hoverlap

/-- **The tree that a project is made in** is known once a command of the set-up is run.
The project's directory was not there, and unless it was made inside of the template it holds
that (`Scaffolded`). -/
theorem create_tree (settings : ScaffoldSettings) (directory : Path) (tpl : Template)
    (name : Text) (hnamed : NamedAsUsual settings) (huntouching : w.Untouching)
    (hr : w.files.Rooted) (hhere : w.files.get? w.directory = some .directory)
    (hlaunched : ((create settings directory tpl name).after w).launches ≠ w.launches) :
    ∃ made source goal,
      Files.makeDirectories false w.directory (directory.child name) w.files = .ok () made ∧
      Leads made w.directory (settings.templateDir.child tpl.directory) source ∧
      Leads made w.directory (directory.child name) goal ∧ w.files.get? goal = none ∧
      (¬ source <+: goal → (∀ rel, ¬ goal <+: source ++ rel) ∧
        Scaffolded w.directory directory source goal w.files
          ((create settings directory tpl name).after w).files) := by
  rcases create_cases settings directory tpl name w with
    ⟨-, hcreate⟩ | ⟨-, f, t, shown, hcreate⟩ | ⟨haccepts, t, hfurnished⟩
  · exact absurd (by rw [Action.after_error hcreate]) hlaunched
  · exact absurd (by rw [Action.after_error hcreate]) hlaunched
  · obtain ⟨shown, hafter⟩ := after_of_furnished huntouching haccepts hfurnished
    obtain ⟨made, source, goal, hmade, hsource, hgoal, hnone, hlaid⟩ :=
      laid_of_furnished hnamed hr hhere hfurnished
    refine ⟨made, source, goal, hmade, hsource, hgoal, hnone, fun hoverlap => ?_⟩
    obtain ⟨hapart, hlaid⟩ := hlaid hoverlap
    rw [hafter]
    exact ⟨hapart, scaffolded_of_laid hnamed.gitignoreSource haccepts
      (Files.made_of_makeDirectories hmade) hgoal hoverlap hapart hlaid⟩

/-- Everything in the small tree stands in a directory. -/
theorem rooted_seeds : seeds.Rooted :=
  FileTree.rooted_of_entries (by decide)

/-- There the project has the template's `.gitignore`, though its packages could not be
installed, and beside it everything is as before. -/
theorem create_tree_install :
    ((create trial ⟨.here, []⟩ .llmChat (text "p")).after bench).files.get?
        [text "p", text ".gitignore"] = some (.file [10]) ∧
      ∀ a, ¬ [text "p"] <+: a →
        ((create trial ⟨.here, []⟩ .llmChat (text "p")).after bench).files.get? a =
          seeds.get? a := by
  have hlaunched : ((create trial ⟨.here, []⟩ .llmChat (text "p")).after bench).launches ≠
      bench.launches := by
    have hlength : ((create trial ⟨.here, []⟩ .llmChat (text "p")).after bench).launches.length =
        2 := by cbv
    intro heq
    rw [heq] at hlength
    cases hlength
  obtain ⟨made, source, goal, hmade, hsource, hgoal, -, htree⟩ :=
    create_tree (w := bench) trial ⟨.here, []⟩ .llmChat (text "p") ⟨rfl, rfl, rfl⟩
      (fun _ _ _ => rfl) rooted_seeds rfl hlaunched
  have hnew : Files.makeDirectories false [] ⟨.here, [text "p"]⟩ seeds =
      .ok () (seeds.set [text "p"] .directory) := by cbv
  cases hmade.symm.trans hnew
  have hsource' : Leads (seeds.set [text "p"] .directory) [] ⟨.here, [text "tpl", text "agent"]⟩
      [text "tpl", text "agent"] := by cbv
  have hgoal' : Leads (seeds.set [text "p"] .directory) [] ⟨.here, [text "p"]⟩ [text "p"] := by cbv
  cases hsource.unique hsource'
  cases hgoal.unique hgoal'
  obtain ⟨-, hscaffolded⟩ := htree (by decide)
  refine ⟨?_, fun a ha => ?_⟩
  · obtain ⟨bytes, hfound, hwritten⟩ := hscaffolded.gitignore
    have hbytes : seeds.get? [text "tpl", text "agent", text "gitignore"] = some (.file [10]) := by
      cbv
    rw [hscaffolded.template (by decide), List.cons_append, List.cons_append,
      List.nil_append] at hfound
    cases hfound.symm.trans hbytes
    exact hwritten
  · rcases hscaffolded.elsewhere a ha with hsame | ⟨-, -, front, hne, hfront, -⟩
    · exact hsame
    · exact absurd (List.prefix_nil.1 hfront) hne

/-- The way from the small tree's top through its template and back. -/
def roundabout : Path :=
  .ofText (text "tpl/agent/x/../../..")

/-- **A path that leads through the template makes directories in it.** The project is none
of the template's, but its copy of it has one directory more. -/
theorem template_grows : ∃ w',
    create trial roundabout .llmChat (text "p") { bench with runner := fun _ => .idle } =
      .ok (roundabout.child (text "p")) w' ∧
    Leads w'.files [] ⟨.here, [text "tpl", text "agent"]⟩ [text "tpl", text "agent"] ∧
    Leads w'.files [] (roundabout.child (text "p")) [text "p"] ∧
    ¬ [text "tpl", text "agent"] <+: [text "p"] ∧ ¬ [text "p"] <+: [text "tpl", text "agent"] ∧
    seeds.get? [text "tpl", text "agent", text "x"] = none ∧
    w'.files.get? [text "tpl", text "agent", text "x"] = some .directory ∧
    w'.files.get? [text "p", text "x"] = some .directory := by
  exact ⟨_, by cbv, by cbv, by cbv, by decide, by decide, by cbv, by cbv, by cbv⟩

end Project

end AgentWorkshop
