import AgentWorkshop.Proofs.Files.Beside
import AgentWorkshop.Proofs.Project.Tree

/-!
# A project apart from all else

What becomes of a project depends on its template and its name. In two trees with room for it
(`Room`) and with the same template (`SameTemplate`), which does not overlap its place
(`Overlaps`), making the project goes abreast: it comes to the same there and changes nothing
beside it, however much the trees differ otherwise (`create_alike`). That holds of a project that
cannot be finished as well. A place where something stands is left alone (`create_of_there`).
-/

namespace AgentWorkshop

namespace Project

open Files (Leads Level Fillable start way stride up)
open FileTree (Beside Matched Shared)
open Step (Abreast)

variable {settings : ScaffoldSettings} {directory template : Path} {tpl : Template} {name : Text}
variable {here home source g : Address} {t t' b b' u u' : FileTree} {w w' : Workshop}

/-! ## The place of a project -/

/-- A directory in which projects are made. -/
structure Site (here : Address) (directory : Path) (home : Address) (t : FileTree) : Prop where
  hasNull : directory.hasNull = false
  leads : Leads t here directory home

/-- The name or the path of a project is longer than the system allows. -/
def TooLong (directory : Path) (name : Text) : Prop :=
  Files.pathLimit ≤ Files.byteCount (directory.child name).toText ∨
    Files.nameLimit < Files.byteCount name

instance (directory : Path) (name : Text) : Decidable (TooLong directory name) :=
  inferInstanceAs (Decidable (_ ∨ _))

theorem hasNull_project (h : Site here directory home t)
    (haccepts : ProjectName.accepts name = true) : (directory.child name).hasNull = false :=
  ProjectName.hasNull_child_of_accepts haccepts h.hasNull

theorem locate_project (h : Site here directory home t)
    (haccepts : ProjectName.accepts name = true) (hshort : ¬ TooLong directory name) :
    Files.locate t here (directory.child name) = .ok (Files.placeAt t (home ++ [name])) := by
  obtain ⟨hpath, hname⟩ := not_or.1 hshort
  rw [Files.locate_eq, if_neg hpath, ProjectName.child_of_accepts haccepts]
  dsimp only
  rw [(Files.leads_iff.1 h.leads).2.follow_append, Files.follow_cons,
    if_neg (ProjectName.ne_up_of_accepts haccepts), if_neg hname, Files.placeAt]
  cases t.get? (home ++ [name]) <;> rfl

theorem locate_tooLong (h : Site here directory home t)
    (haccepts : ProjectName.accepts name = true) (hlong : TooLong directory name) :
    Files.locate t here (directory.child name) = .error .nameTooLong := by
  rw [Files.locate_eq]
  split
  · rfl
  · rename_i hpath
    rw [ProjectName.child_of_accepts haccepts]
    dsimp only
    rw [(Files.leads_iff.1 h.leads).2.follow_append, Files.follow_cons,
      if_neg (ProjectName.ne_up_of_accepts haccepts), if_pos (hlong.resolve_left hpath)]

/-- **The directory of a project is made in a free place** unless the project's path or name is
too long; otherwise nothing is changed, and what is wrong is its length or what stands there. -/
theorem makeDirectories_project (h : Site here directory home t)
    (haccepts : ProjectName.accepts name = true) :
    (¬ TooLong directory name ∧ t.get? (home ++ [name]) = none ∧
      Files.makeDirectories false here (directory.child name) t =
        .ok () (t.set (home ++ [name]) .directory)) ∨
    ((TooLong directory name ∨ t.get? (home ++ [name]) ≠ none) ∧
      ∃ e, (¬ TooLong directory name → e = .exists) ∧
        Files.makeDirectories false here (directory.child name) t =
          .error (Files.failure e (directory.child name)) t) := by
  have hne : (directory.child name).parts ≠ [] := by
    rw [ProjectName.child_of_accepts haccepts]
    simp
  have hmake (habove : Files.locate t here (directory.child name) ≠ .error .noEntry) :=
    Files.makeDirectories_apply (hasNull_project h haccepts) hne habove
  by_cases hlong : TooLong directory name
  · rw [locate_tooLong h haccepts hlong] at hmake
    exact .inr ⟨.inl hlong, _, absurd hlong, hmake (by simp)⟩
  · rw [locate_project h haccepts hlong, Files.placeAt] at hmake
    cases hplace : t.get? (home ++ [name]) with
    | none =>
      rw [hplace] at hmake
      exact .inl ⟨hlong, rfl, hmake (by simp)⟩
    | some entry =>
      rw [hplace] at hmake
      exact .inr ⟨.inr (by simp), _, fun _ => rfl, hmake (by simp)⟩

/-- What cannot be made is refused, and nothing is done. -/
theorem create_of_unmade (settings : ScaffoldSettings) (directory : Path) (tpl : Template)
    (haccepts : ProjectName.accepts name = true) {e : Errno}
    (h : Files.makeDirectories false w.directory (directory.child name) w.files =
      .error (Files.failure e (directory.child name)) w.files) :
    ∃ fault shown, create settings directory tpl name w =
      .error (.file fault) { w with shown := shown } ∧
        (e = .exists → fault = .alreadyThere (directory.child name)) := by
  have hmake (shown : List Event) : ∃ fault, makeDirectory (directory.child name)
      { w with shown := shown } = .error (.file fault) { w with shown := shown } ∧
        (e = .exists → fault = .alreadyThere (directory.child name)) := by
    simp only [makeDirectory, Step.bind_apply, Action.attempt, Action.onFiles, h, Files.failure]
    split
    · exact ⟨_, rfl, fun _ => rfl⟩
    · rename_i hother
      exact ⟨_, rfl, fun hexists => absurd (hexists ▸ rfl) hother⟩
  obtain ⟨fault, hfault, hexists⟩ :=
    hmake (w.shown ++ [.status (text "Setting up your project...")])
  refine ⟨fault, w.shown ++ [.status (text "Setting up your project...")], ?_, hexists⟩
  rw [create_of_accepts haccepts, furnish]
  refine Step.bind_error ?_
  rw [Step.bind_ok (Action.display_apply _ _), Step.bind_error hfault]

/-- **Where something stands is no place for a project.** It is refused, no command is run and
no file is touched. -/
theorem create_of_there (settings : ScaffoldSettings) (tpl : Template)
    (hsite : Site w.directory directory home w.files)
    (haccepts : ProjectName.accepts name = true)
    (hthere : w.files.get? (home ++ [name]) ≠ none) :
    ∃ fault shown, create settings directory tpl name w =
      .error (.file fault) { w with shown := shown } ∧
        (¬ TooLong directory name → fault = .alreadyThere (directory.child name)) := by
  rcases makeDirectories_project hsite haccepts with ⟨-, hnone, -⟩ | ⟨-, e, hshort, hunmade⟩
  · exact absurd hnone hthere
  · obtain ⟨fault, shown, hcreate, hexists⟩ :=
      create_of_unmade settings directory tpl haccepts hunmade
    exact ⟨fault, shown, hcreate, fun h => hexists (hshort h)⟩

theorem files_create_of_there (hsite : Site w.directory directory home w.files)
    (haccepts : ProjectName.accepts name = true)
    (hthere : w.files.get? (home ++ [name]) ≠ none) :
    ((create settings directory tpl name).after w).files = w.files := by
  obtain ⟨fault, shown, hcreate, -⟩ := create_of_there settings tpl hsite haccepts hthere
  rw [Action.after_error hcreate]

/-! ## The template of a project -/

/-- The way to a path leads through an address, or what it leads to is above that. -/
def Overlaps (here : Address) (p : Path) (g : Address) : Prop :=
  (∃ a ∈ way (start here p.anchor) p.parts, g <+: a) ∨
    p.parts.foldl stride (start here p.anchor) <+: g

instance (here : Address) (p : Path) (g : Address) : Decidable (Overlaps here p g) :=
  inferInstanceAs (Decidable (_ ∨ _))

/-- So if no name leads up, one of the two addresses is above the other. -/
theorem overlaps_iff {p : Path} (hup : up ∉ p.parts) : Overlaps here p g ↔
    g <+: start here p.anchor ++ p.parts ∨ start here p.anchor ++ p.parts <+: g := by
  obtain ⟨hend, hway⟩ := @Files.end_of_way (start here p.anchor) p.parts hup
  rw [Overlaps, hend]
  refine or_congr_left ⟨fun ⟨a, ha, hbelow⟩ => hbelow.trans (hway a ha), fun hbelow => ?_⟩
  exact ⟨_, Files.foldl_mem_way _ _, by rwa [hend]⟩

/-- What a path leads to is neither above nor below an address that it does not overlap. -/
theorem append_ne_of_not_overlaps (h : ¬ Overlaps here template g)
    (hsource : Leads t here template source) (x y : Address) : source ++ x ≠ g ++ y := by
  have hend := (Files.leads_iff.1 hsource).2.eq_foldl
  rw [hend]
  exact append_ne_append (fun habove => h (.inr habove))
    (fun hbelow => h (.inl ⟨_, Files.foldl_mem_way _ _, hbelow⟩)) x y

/-- In both trees the path leads to the same; and if that is a directory, the trees hold the
same below it, listed in the same order. -/
structure SameTemplate (here : Address) (template : Path) (t t' : FileTree) : Prop where
  locate : Files.locate t' here template = Files.locate t here template
  get? : ∀ source, Leads t here template source → ∀ x,
    t'.get? (source ++ x) = t.get? (source ++ x)
  names : ∀ source, Leads t here template source → ∀ x,
    t'.names (source ++ x) = t.names (source ++ x)

theorem SameTemplate.leads (h : SameTemplate here template t t') :
    Leads t' here template source ↔ Leads t here template source := by
  rw [Leads, Leads, h.locate]

theorem SameTemplate.refl (here : Address) (template : Path) (t : FileTree) :
    SameTemplate here template t t :=
  ⟨rfl, fun _ _ _ => rfl, fun _ _ _ => rfl⟩

theorem SameTemplate.symm (h : SameTemplate here template t t') :
    SameTemplate here template t' t where
  locate := h.locate.symm
  get? source hsource x := (h.get? source (h.leads.1 hsource) x).symm
  names source hsource x := (h.names source (h.leads.1 hsource) x).symm

theorem SameTemplate.trans (h : SameTemplate here template t t')
    (h' : SameTemplate here template t' u) : SameTemplate here template t u where
  locate := h'.locate.trans h.locate
  get? source hsource x :=
    (h'.get? source (h.leads.2 hsource) x).trans (h.get? source hsource x)
  names source hsource x :=
    (h'.names source (h.leads.2 hsource) x).trans (h.names source hsource x)

/-- **Work that the template does not overlap** leaves it as it is. -/
theorem sameTemplate_of_beside (h : ¬ Overlaps here template g) (hbeside : Beside g b u) :
    SameTemplate here template b u := by
  have hshared {source : Address} (hsource : Leads b here template source) :=
    hbeside.shared (append_ne_of_not_overlaps h hsource)
  refine ⟨?_, fun _ hsource => (hshared hsource).get?, fun _ hsource => (hshared hsource).names⟩
  rw [Files.locate_eq, Files.locate_eq, Files.follow_congr fun a ha => ?_]
  exact hbeside.get? a fun hbelow => h (.inl ⟨a, ha, hbelow⟩)

/-! ## Two projects side by side -/

/-- What is done for a project once its directory is made, up to its set-up. -/
def filling (settings : ScaffoldSettings) (template project : Path) (name : Text) :
    Action Unit := do
  copyTemplate settings template project
  Action.display (.status (text "Customizing project files..."))
  customize settings project name

/-- **Twins**: two trees with the same template, apart from an address that the path of a
project leads to once there is a directory. -/
structure Twins (here : Address) (template project : Path) (g : Address) (b b' : FileTree) :
    Prop where
  left : ∀ u, Beside g b u → u.get? g = some .directory → Leads u here project g
  right : ∀ u, Beside g b' u → u.get? g = some .directory → Leads u here project g
  hasNull : project.hasNull = false
  same : SameTemplate here template b b'
  apart : ¬ Overlaps here template g
  ne_nil : g ≠ []

namespace Twins

variable {project : Path} {more : List Text} (h : Twins here template project g b b')
include h

theorem leads (hm : Matched g b b' u u') :
    Leads u here project g ∧ Leads u' here project g := by
  refine ⟨h.left u hm.left hm.there, h.right u' hm.right ?_⟩
  have hsame := hm.same []
  rwa [List.append_nil, hm.there] at hsame

theorem sameTemplate (hm : Matched g b b' u u') :
    SameTemplate here template b u ∧ SameTemplate here template u u' :=
  have hleft := sameTemplate_of_beside h.apart hm.left
  ⟨hleft, (hleft.symm.trans h.same).trans (sameTemplate_of_beside h.apart hm.right)⟩

theorem level_template : Level (Matched g b b') here template :=
  fun _ _ hm => (h.sameTemplate hm).2.locate

/-- What the template holds is found alike, once there is one. -/
theorem level_below_template (hsource : Leads b here template source) (hup : up ∉ more) :
    Level (Matched g b b') here ⟨template.anchor, template.parts ++ more⟩ := by
  intro u u' hm
  obtain ⟨hleft, hsame⟩ := h.sameTemplate hm
  have hsource' := hleft.leads.2 hsource
  exact hsource'.locate_congr (hsame.leads.2 hsource') (hsame.get? source hsource') hup

/-- And so is what the project holds. -/
theorem level_below_project (hup : up ∉ more) :
    Level (Matched g b b') here ⟨project.anchor, project.parts ++ more⟩ := by
  intro u u' hm
  obtain ⟨hgoal, hgoal'⟩ := h.leads hm
  exact hgoal.locate_congr hgoal' hm.same hup

theorem fillable_below_project (hup : up ∉ more) (hne : more ≠ []) :
    Fillable (Matched g b b') here ⟨project.anchor, project.parts ++ more⟩ := by
  intro u u' a bytes hm ha
  rw [(h.leads hm).1.eq_of_destination hup hne ha]
  exact hm.fill h.ne_nil hne bytes

theorem abreast_copyAll (hnull : template.hasNull = false)
    (hsource : Leads b here template source) :
    Abreast (Matched g b b') (copyAll settings template project here)
      (copyAll settings template project here) := by
  intro u u' hm
  obtain ⟨hleft, hsame⟩ := h.sameTemplate hm
  obtain ⟨hgoal, hgoal'⟩ := h.leads hm
  have hsource' := hleft.leads.2 hsource
  rw [copyAll_of_leads hnull h.hasNull hsource' hgoal,
    copyAll_of_leads hnull h.hasNull (hsame.leads.2 hsource') hgoal']
  have hshared : Shared source g b b' :=
    ⟨h.same.get? source hsource, h.same.names source hsource,
      append_ne_of_not_overlaps h.apart hsource⟩
  have habreast : Abreast (Matched g b b')
      (Files.copyTree (isLeftOut settings) Files.levelLimit template project (source ++ [])
        (g ++ [])) _ :=
    Files.abreast_copyTree h.ne_nil hshared _ _ _ _ _
  rw [List.append_nil, List.append_nil] at habreast
  exact habreast u u' hm

variable (hnamed : NamedAsUsual settings)
include hnamed

theorem abreast_transfer (hnull : template.hasNull = false)
    (hsource : Leads b here template source) :
    Abreast (Matched g b b') (transfer settings template project here)
      (transfer settings template project here) := by
  refine (h.abreast_copyAll hnull hsource).bind fun faults => ?_
  cases faults with
  | cons => exact Step.abreast_pure _
  | nil =>
    have hlevel : Level (Matched g b b') here (template.child (text "gitignore")) :=
      h.level_below_template hsource (by decide)
    have hlevel' : Level (Matched g b b') here (project.child (text ".gitignore")) :=
      h.level_below_project (by decide)
    rw [hnamed.gitignoreSource]
    exact Files.abreast_copyFile hlevel hlevel'
      (h.fillable_below_project (by decide) (List.cons_ne_nil _ _))

/-- **A template is copied alike**, or not found in either tree. -/
theorem abreast_copyTemplate : Abreast (Action.Side (Matched g b b') here)
    (copyTemplate settings template project) (copyTemplate settings template project) := by
  refine (Action.abreast_onFiles (Files.abreast_isDirectory h.level_template)).bind_of_ok
    fun found hfound => ?_
  cases found with
  | false => exact Step.abreast_throw _
  | true =>
    -- Once the template is found its path leads to the same directory in all the trees.
    obtain ⟨w, w', w₁, hside, hfound⟩ := hfound
    obtain ⟨t, hfound⟩ : ∃ t, Files.isDirectory here template w.files = .ok true t := by
      rw [Action.onFiles, hside.left] at hfound
      cases hlooked : Files.isDirectory here template w.files <;> rw [hlooked] at hfound <;>
        cases hfound
      exact ⟨_, rfl⟩
    obtain ⟨hnull, source, hsource⟩ := Files.leads_of_isDirectory hfound
    have hsource' := (h.sameTemplate hside.files).1.leads.1 hsource
    change Abreast _ (Action.attempt (Action.onFiles (transfer settings template project)) >>= _)
      (Action.attempt (Action.onFiles (transfer settings template project)) >>= _)
    refine (Action.abreast_attempt (Action.abreast_onFiles
      (h.abreast_transfer hnamed hnull hsource'))).bind fun copied => ?_
    split
    · exact Step.abreast_pure _
    · exact Step.abreast_throw _
    · exact Step.abreast_throw _
    · exact Step.abreast_throw _

/-- **The manifest is rewritten alike.** -/
theorem abreast_customize (name : Text) : Abreast (Action.Side (Matched g b b') here)
    (customize settings project name) (customize settings project name) := by
  have hup : up ∉ manifestNames := by decide
  have hlevel := h.level_below_project hup
  have hfill := h.fillable_below_project hup (by decide)
  have hmanifest : manifestPath settings project =
      ⟨project.anchor, project.parts ++ manifestNames⟩ := by
    rw [manifestPath, hnamed.manifestDir, hnamed.manifestName, manifestNames, List.append_cons]
    rfl
  rw [← hmanifest] at hlevel hfill
  refine (Action.abreast_attempt (Action.abreast_onFiles ((Files.abreast_readText hlevel).bind
    fun t => Files.abreast_writeText hlevel hfill _))).bind fun written => ?_
  split
  · exact Action.abreast_display _
  · exact Step.abreast_throw _
  · exact Step.abreast_throw _

/-- What comes after a project's directory is made goes alike, whether it is all done or fails
midway. -/
theorem abreast_filling (name : Text) : Abreast (Action.Side (Matched g b b') here)
    (filling settings template project name) (filling settings template project name) :=
  (h.abreast_copyTemplate hnamed).bind fun _ =>
    (Action.abreast_display _).bind fun _ => h.abreast_customize hnamed name

end Twins

/-! ## The tree that is left -/

/-- A tree with room for a project in a directory. -/
structure Room (here : Address) (directory : Path) (home : Address) (name : Text) (t : FileTree) :
    Prop where
  site : Site here directory home t
  clear : ∀ x, t.get? (home ++ [name] ++ x) = none

/-- A project that is made leads to its place, whatever is done there. -/
theorem Room.leads (h : Room here directory home name t)
    (haccepts : ProjectName.accepts name = true) (hshort : ¬ TooLong directory name)
    (hbeside : Beside (home ++ [name]) t u) (hthere : u.get? (home ++ [name]) = some .directory) :
    Leads u here (directory.child name) (home ++ [name]) := by
  -- No directory that was there is in the project's place.
  have hkept (a : Address) (ha : t.get? a = some .directory) : u.get? a = some .directory := by
    rw [hbeside.get? a, ha]
    rintro ⟨x, rfl⟩
    rw [h.clear x] at ha
    cases ha
  have hsite : Site here directory home u := ⟨h.site.hasNull, h.site.leads.mono hkept⟩
  rw [Leads, locate_project hsite haccepts hshort, Files.placeAt, hthere]

/-- What is made in a place where nothing stands. -/
theorem Room.matched (h : Room here directory home name b) (h' : Room here directory home name b') :
    Matched (home ++ [name]) b b' (b.set (home ++ [name]) .directory)
      (b'.set (home ++ [name]) .directory) := by
  have hbeside (t : FileTree) : Beside (home ++ [name]) t (t.set (home ++ [name]) .directory) := by
    have hset := (Beside.refl (home ++ [name]) t).set [] .directory
    rwa [List.append_nil] at hset
  refine ⟨hbeside b, hbeside b', FileTree.get?_set_self (by simp), fun y => ?_⟩
  by_cases hy : y = []
  · rw [hy, List.append_nil, FileTree.get?_set_self (by simp), FileTree.get?_set_self (by simp)]
  · have hne : home ++ [name] ++ y ≠ home ++ [name] := by simpa using hy
    rw [FileTree.get?_set_of_ne hne, FileTree.get?_set_of_ne hne, h.clear, h'.clear]

theorem Room.twins (h : Room here directory home name b) (h' : Room here directory home name b')
    (haccepts : ProjectName.accepts name = true) (hshort : ¬ TooLong directory name)
    (hsame : SameTemplate here template b b') (hapart : ¬ Overlaps here template (home ++ [name])) :
    Twins here template (directory.child name) (home ++ [name]) b b' where
  left _ := h.leads haccepts hshort
  right _ := h'.leads haccepts hshort
  hasNull := hasNull_project h.site haccepts
  same := hsame
  apart := hapart
  ne_nil := by simp

/-- The set-up touches no file and leaves the workshop where it is. -/
theorem create_after (settings : ScaffoldSettings) (directory : Path) (tpl : Template)
    (huntouching : w.Untouching) (haccepts : ProjectName.accepts name = true) :
    ∃ launches shown, (create settings directory tpl name).after w =
      { w with
        files := ((furnish settings (settings.templateDir.child tpl.directory)
          (directory.child name) name).after w).files
        launches := launches
        shown := shown } := by
  rcases furnish_cases settings (settings.templateDir.child tpl.directory)
    (directory.child name) name w with ⟨t, hfurnished⟩ | ⟨f, t, shown, hfurnish⟩
  · obtain ⟨shown, hafter⟩ := after_of_furnished huntouching haccepts hfurnished
    obtain ⟨shown', hfurnish⟩ := furnish_of_furnished hfurnished
    rw [hafter, Action.after_ok hfurnish]
    exact ⟨_, _, rfl⟩
  · refine ⟨w.launches, shown, ?_⟩
    rw [Action.after_error hfurnish, create_of_accepts haccepts,
      Action.after_error (Step.bind_error hfurnish)]

/-- A project whose directory is made is what is filled into that. -/
theorem files_create_of_made (huntouching : w.Untouching)
    (haccepts : ProjectName.accepts name = true)
    (hmade : Files.makeDirectories false w.directory (directory.child name) w.files = .ok () t) :
    ((create settings directory tpl name).after w).files =
      ((filling settings (settings.templateDir.child tpl.directory) (directory.child name)
        name).after { w with
          files := t
          shown := w.shown ++ [.status (text "Setting up your project...")] }).files := by
  obtain ⟨launches, shown, hafter⟩ := create_after settings directory tpl huntouching haccepts
  rw [hafter]
  dsimp only
  rw [furnish, Action.after_bind_ok (Action.display_apply _ _),
    Action.after_bind_ok (makeDirectory_ok (w := { w with shown := w.shown ++ _ }) hmade)]
  rfl

/-- **A project is made alike** in workshops with room for it and with the same template: its
name or path is too long and nothing changes in either, or both come to hold the same in its
place and change nothing beside it. -/
theorem create_alike (hnamed : NamedAsUsual settings) (huntouching : w.Untouching)
    (huntouching' : w'.Untouching) (haccepts : ProjectName.accepts name = true)
    (hhere : w'.directory = w.directory) (hroom : Room w.directory directory home name w.files)
    (hroom' : Room w.directory directory home name w'.files)
    (hsame : SameTemplate w.directory (settings.templateDir.child tpl.directory) w.files w'.files)
    (hapart : ¬ Overlaps w.directory (settings.templateDir.child tpl.directory)
      (home ++ [name])) :
    (TooLong directory name ∧
      ((create settings directory tpl name).after w).files = w.files ∧
      ((create settings directory tpl name).after w').files = w'.files) ∨
    Matched (home ++ [name]) w.files w'.files
      ((create settings directory tpl name).after w).files
      ((create settings directory tpl name).after w').files := by
  have hnone := hroom.clear []
  have hnone' := hroom'.clear []
  rw [List.append_nil] at hnone hnone'
  -- The place is free, so only the length of the path or of the name can stand against it, and
  -- that is the same for both.
  rcases makeDirectories_project hroom.site haccepts with
    ⟨hshort, -, hmade⟩ | ⟨hlong, e, -, hunmade⟩ <;>
  rcases makeDirectories_project hroom'.site haccepts with
    ⟨hshort', -, hmade'⟩ | ⟨hlong', e', -, hunmade'⟩
  · rw [← hhere] at hmade'
    rw [files_create_of_made huntouching haccepts hmade,
      files_create_of_made huntouching' haccepts hmade']
    have habreast := (hroom.twins hroom' haccepts hshort hsame hapart).abreast_filling hnamed name
    refine .inr (Action.related_after habreast ?_).files
    exact Action.Side.mk rfl hhere (hroom.matched hroom')
  · exact absurd (hlong'.resolve_right fun hthere => hthere hnone') hshort
  · exact absurd (hlong.resolve_right fun hthere => hthere hnone) hshort'
  · rw [← hhere] at hunmade'
    obtain ⟨fault, shown, hcreate, -⟩ := create_of_unmade settings directory tpl haccepts hunmade
    obtain ⟨fault', shown', hcreate', -⟩ :=
      create_of_unmade settings directory tpl haccepts hunmade'
    exact .inl ⟨hlong.resolve_right fun hthere => hthere hnone,
      by rw [Action.after_error hcreate], by rw [Action.after_error hcreate']⟩

end Project

end AgentWorkshop
