import AgentWorkshop.Proofs.Project.Apart

/-!
# Projects one after the other

Projects that are made in one directory from one template have nothing to do with each other,
whatever comes of each. After any sequence every project is as it would be had it been made
alone, and beside the projects nothing changed (`Stands`, `stands_creates`). So no project is
altered by a later one, and the order makes no difference (`creates_apart`).
-/

namespace AgentWorkshop

namespace Project

open FileTree (Beside Matched)

variable {settings : ScaffoldSettings} {directory : Path} {tpl : Template} {name : Text}
variable {names : List Text} {home : Address} {w w' c : Workshop}

/-! ## One project -/

/-- The tree that is left of making one project. -/
def treeOf (settings : ScaffoldSettings) (directory : Path) (tpl : Template) (w : Workshop)
    (name : Text) : FileTree :=
  ((create settings directory tpl name).after w).files

/-- **The grounds that projects are made on**: the settings name things as usual, no process
touches a file, everything stands in a directory and the directory of the projects is there. -/
structure Grounds (settings : ScaffoldSettings) (directory : Path) (home : Address)
    (w : Workshop) : Prop where
  named : NamedAsUsual settings
  untouching : w.Untouching
  rooted : w.files.Rooted
  site : Site w.directory directory home w.files

/-- The template does not overlap the place of the project of that name, if there may be one. -/
def Apart (settings : ScaffoldSettings) (tpl : Template) (here home : Address) (name : Text) :
    Prop :=
  ProjectName.accepts name = true →
    ¬ Overlaps here (settings.templateDir.child tpl.directory) (home ++ [name])

/-- Nothing stands below a free place. -/
theorem Grounds.room (hw : Grounds settings directory home w)
    (hnone : w.files.get? (home ++ [name]) = none) :
    Room w.directory directory home name w.files :=
  ⟨hw.site, hw.rooted.get?_append hnone⟩

section
variable (hw : Grounds settings directory home w)
variable (haccepts : ProjectName.accepts name = true)
variable (hapart : Apart settings tpl w.directory home name)
include hw haccepts hapart

/-- **One project** changes nothing, because something stands in its place or it is too long, or
has a directory where nothing stood. -/
theorem treeOf_cases :
    (w.files.get? (home ++ [name]) ≠ none ∨ TooLong directory name) ∧
      treeOf settings directory tpl w name = w.files ∨
    w.files.get? (home ++ [name]) = none ∧
      Matched (home ++ [name]) w.files w.files (treeOf settings directory tpl w name)
        (treeOf settings directory tpl w name) := by
  by_cases hnone : w.files.get? (home ++ [name]) = none
  · rcases create_alike hw.named hw.untouching hw.untouching haccepts rfl (hw.room hnone)
      (hw.room hnone) (.refl _ _ _) (hapart haccepts) with ⟨hlong, hunmade, -⟩ | hmatched
    · exact .inl ⟨.inr hlong, hunmade⟩
    · exact .inr ⟨hnone, hmatched⟩
  · exact .inl ⟨.inl hnone, files_create_of_there hw.site haccepts hnone⟩

/-- **What is made depends on the template and the name**, where there is room for it. -/
theorem treeOf_alike (huntouching : w'.Untouching) (hhere : w'.directory = w.directory)
    (hnone : w.files.get? (home ++ [name]) = none)
    (hroom : Room w.directory directory home name w'.files)
    (hsame : SameTemplate w.directory (settings.templateDir.child tpl.directory) w.files
      w'.files) :
    Beside (home ++ [name]) w'.files (treeOf settings directory tpl w' name) ∧
      ∀ x, (treeOf settings directory tpl w' name).get? (home ++ [name] ++ x) =
        (treeOf settings directory tpl w name).get? (home ++ [name] ++ x) := by
  rcases create_alike hw.named hw.untouching huntouching haccepts hhere (hw.room hnone) hroom
    hsame (hapart haccepts) with ⟨-, hunmade, hunmade'⟩ | hmatched
  · rw [treeOf, treeOf, hunmade, hunmade']
    exact ⟨.refl _ _, fun x => by rw [(hw.room hnone).clear, hroom.clear]⟩
  · exact ⟨hmatched.right, hmatched.same⟩

end

/-! ## A sequence of projects -/

/-- The workshop that is left of making projects one after the other, whatever comes of each. -/
def creates (settings : ScaffoldSettings) (directory : Path) (tpl : Template) (names : List Text)
    (w : Workshop) : Workshop :=
  names.foldl (fun w name => (create settings directory tpl name).after w) w

theorem creates_append (settings : ScaffoldSettings) (directory : Path) (tpl : Template)
    (names more : List Text) (w : Workshop) : creates settings directory tpl (names ++ more) w =
      creates settings directory tpl more (creates settings directory tpl names w) :=
  List.foldl_append

/-- **What a sequence comes to** from a workshop: each project is as if it had been made alone,
and nothing else is changed. -/
structure Stands (settings : ScaffoldSettings) (directory : Path) (tpl : Template)
    (home : Address) (w : Workshop) (names : List Text) (c : Workshop) : Prop where
  here : c.directory = w.directory
  runner : c.runner = w.runner
  template : SameTemplate w.directory (settings.templateDir.child tpl.directory) w.files c.files
  project : ∀ name ∈ names, ProjectName.accepts name = true → ∀ x,
    c.files.get? (home ++ [name] ++ x) =
      (treeOf settings directory tpl w name).get? (home ++ [name] ++ x)
  elsewhere : ∀ a, (∀ name ∈ names, ProjectName.accepts name = true → ¬ home ++ [name] <+: a) →
    c.files.get? a = w.files.get? a

/-- What is below the place of one name is below that of no other. -/
theorem prefix_place {m : Text} {x : Address} :
    home ++ [m] <+: home ++ [name] ++ x ↔ m = name := by
  rw [List.append_assoc, List.prefix_append_right_inj, List.singleton_append,
    List.cons_prefix_cons]
  simp

/-- An address is in the place of a project, or beside all of them. -/
theorem inside_or_beside (home : Address) (names : List Text) (a : Address) :
    (∃ name ∈ names, ProjectName.accepts name = true ∧ ∃ x, a = home ++ [name] ++ x) ∨
      ∀ name ∈ names, ProjectName.accepts name = true → ¬ home ++ [name] <+: a := by
  by_cases hinside : ∃ name ∈ names, ProjectName.accepts name = true ∧ home ++ [name] <+: a
  · obtain ⟨name, hname, haccepts, x, hx⟩ := hinside
    exact .inl ⟨name, hname, haccepts, x, hx.symm⟩
  · exact .inr fun name hname haccepts hprefix => hinside ⟨name, hname, haccepts, hprefix⟩

namespace Stands

section
variable (h : Stands settings directory tpl home w names c)
include h

/-- **A place is as the one project left it**, or as it was in the beginning. -/
theorem place (haccepts : ProjectName.accepts name = true) :
    (∀ x, c.files.get? (home ++ [name] ++ x) =
        (treeOf settings directory tpl w name).get? (home ++ [name] ++ x)) ∨
      ∀ x, c.files.get? (home ++ [name] ++ x) = w.files.get? (home ++ [name] ++ x) := by
  by_cases hname : name ∈ names
  · exact .inl (h.project name hname haccepts)
  · refine .inr fun x => h.elsewhere _ fun m hm _ hbelow => ?_
    rw [prefix_place] at hbelow
    exact hname (hbelow ▸ hm)

variable (hw : Grounds settings directory home w)
include hw

theorem untouching : c.Untouching := by
  rw [Workshop.Untouching, h.runner]
  exact hw.untouching

variable (hapart : ∀ name ∈ names, Apart settings tpl w.directory home name)
include hapart

/-- What was there in the beginning stays. -/
theorem kept {a : Address} {e : Entry} (ha : w.files.get? a = some e) :
    c.files.get? a = some e := by
  rcases inside_or_beside home names a with ⟨name, hname, haccepts, x, rfl⟩ | hbeside
  · -- What stood in a project's place from the beginning had that project refused.
    rw [h.project name hname haccepts]
    rcases treeOf_cases hw haccepts (hapart name hname) with ⟨-, hunmade⟩ | ⟨hnone, -⟩
    · rw [hunmade, ha]
    · rw [hw.rooted.get?_append hnone] at ha
      cases ha
  · rw [h.elsewhere a hbeside, ha]

theorem site : Site w.directory directory home c.files :=
  ⟨hw.site.hasNull, hw.site.leads.mono fun _ => h.kept hw hapart⟩

/-- A place that is free was free in the beginning, and there is room for the project. -/
theorem room (haccepts : ProjectName.accepts name = true)
    (hname : Apart settings tpl w.directory home name)
    (hnone : c.files.get? (home ++ [name]) = none) :
    w.files.get? (home ++ [name]) = none ∧ Room w.directory directory home name c.files := by
  have hfree (hsame : ∀ x, c.files.get? (home ++ [name] ++ x) =
      w.files.get? (home ++ [name] ++ x)) : w.files.get? (home ++ [name]) = none ∧
        Room w.directory directory home name c.files := by
    have hnone' := hsame []
    rw [List.append_nil, hnone] at hnone'
    exact ⟨hnone'.symm, h.site hw hapart,
      fun x => (hsame x).trans (hw.rooted.get?_append hnone'.symm x)⟩
  rcases h.place haccepts with hproject | hsame
  · rcases treeOf_cases hw haccepts hname with ⟨-, hunmade⟩ | ⟨-, hmatched⟩
    · exact hfree fun x => by rw [hproject, hunmade]
    · -- A project that was begun has its directory, finished or not.
      have hthere := hproject []
      rw [List.append_nil, hnone, hmatched.there] at hthere
      cases hthere
  · exact hfree hsame

/-- **One more project** changes nothing beside it and is as if it had been made alone. -/
theorem beside (haccepts : ProjectName.accepts name = true)
    (hname : Apart settings tpl w.directory home name) :
    Beside (home ++ [name]) c.files (treeOf settings directory tpl c name) ∧
      ∀ x, (treeOf settings directory tpl c name).get? (home ++ [name] ++ x) =
        (treeOf settings directory tpl w name).get? (home ++ [name] ++ x) := by
  by_cases hnone : c.files.get? (home ++ [name]) = none
  · obtain ⟨hnone', hroom⟩ := h.room hw hapart haccepts hname hnone
    exact treeOf_alike hw haccepts hname (h.untouching hw) h.here hnone' hroom h.template
  · have hsite : Site c.directory directory home c.files := h.here.symm ▸ h.site hw hapart
    have hunmade : treeOf settings directory tpl c name = c.files :=
      files_create_of_there hsite haccepts hnone
    rw [hunmade]
    refine ⟨.refl _ _, ?_⟩
    rcases h.place haccepts with hproject | hsame
    · exact hproject
    · -- What stands there did so from the beginning, so the one project was refused as well.
      have hthere := hsame []
      rw [List.append_nil] at hthere
      rw [hthere] at hnone
      intro x
      rw [hsame, treeOf, files_create_of_there hw.site haccepts hnone]

omit hapart in
/-- **What longer sequences leave**: what is there stays, and projects stay as they are. -/
theorem longer {more : List Text} {c' : Workshop}
    (h' : Stands settings directory tpl home w more c') (hmem : ∀ name ∈ names, name ∈ more)
    (hapart' : ∀ name ∈ more, Apart settings tpl w.directory home name) :
    (∀ a e, c.files.get? a = some e → c'.files.get? a = some e) ∧
      ∀ name ∈ names, ProjectName.accepts name = true → ∀ x,
        c'.files.get? (home ++ [name] ++ x) = c.files.get? (home ++ [name] ++ x) := by
  have hproject (name : Text) (hname : name ∈ names) (haccepts : ProjectName.accepts name = true)
      (x : Address) : c'.files.get? (home ++ [name] ++ x) = c.files.get? (home ++ [name] ++ x) := by
    rw [h'.project name (hmem name hname) haccepts, h.project name hname haccepts]
  refine ⟨fun a e ha => ?_, hproject⟩
  rcases inside_or_beside home names a with ⟨name, hname, haccepts, x, rfl⟩ | hbeside
  · rw [hproject name hname haccepts, ha]
  · rw [h.elsewhere a hbeside] at ha
    exact h'.kept hw hapart' ha

/-- **Sequences of the same names** leave the same, in any order and whatever the commands do. -/
theorem order {names' : List Text} {w' c' : Workshop} (hw' : Grounds settings directory home w')
    (h' : Stands settings directory tpl home w' names' c')
    (hnames : ∀ name, name ∈ names' ↔ name ∈ names) (hfiles : w'.files = w.files)
    (hhere : w'.directory = w.directory) (a : Address) :
    c'.files.get? a = c.files.get? a := by
  rcases inside_or_beside home names a with ⟨name, hname, haccepts, x, rfl⟩ | hbeside
  · rw [h.project name hname haccepts, h'.project name ((hnames name).2 hname) haccepts]
    by_cases hnone : w.files.get? (home ++ [name]) = none
    · have hroom := hw'.room (hfiles ▸ hnone)
      rw [hhere] at hroom
      exact (treeOf_alike hw haccepts (hapart name hname) hw'.untouching hhere hnone hroom
        (hfiles ▸ .refl _ _ _)).2 x
    · rw [treeOf, treeOf, files_create_of_there hw.site haccepts hnone,
        files_create_of_there hw'.site haccepts (hfiles ▸ hnone), hfiles]
  · rw [h.elsewhere a hbeside, ← hfiles]
    exact h'.elsewhere a fun name hname => hbeside name ((hnames name).1 hname)

end

/-- In the beginning nothing is changed. -/
theorem nil : Stands settings directory tpl home w [] w :=
  ⟨rfl, rfl, .refl _ _ _, by simp, fun _ _ => rfl⟩

/-- **A sequence goes on** with one project more. -/
theorem concat (h : Stands settings directory tpl home w names c)
    (hw : Grounds settings directory home w)
    (hapart : ∀ m ∈ names ++ [name], Apart settings tpl w.directory home m) :
    Stands settings directory tpl home w (names ++ [name])
      ((create settings directory tpl name).after c) := by
  have hnames (m : Text) (hm : m ∈ names) := hapart m (List.mem_append_left _ hm)
  have hname := hapart name (by simp)
  cases haccepts : ProjectName.accepts name with
  | false =>
    -- The name is refused, so no project is new.
    rw [Action.after_error (create_of_not_accepts haccepts tpl)]
    have hmem {m : Text} (hm : m ∈ names ++ [name]) (hm' : ProjectName.accepts m = true) :
        m ∈ names := by
      rcases List.mem_append.1 hm with hm | hm
      · exact hm
      · rw [List.mem_singleton.1 hm, haccepts] at hm'
        cases hm'
    exact ⟨h.here, h.runner, h.template, fun m hm hm' => h.project m (hmem hm hm') hm',
      fun a ha => h.elsewhere a fun m hm => ha m (List.mem_append_left _ hm)⟩
  | true =>
    obtain ⟨hbeside, hproject⟩ := h.beside hw hnames haccepts hname
    obtain ⟨launches, shown, hafter⟩ :=
      create_after settings directory tpl (h.untouching hw) haccepts
    refine ⟨?_, ?_, ?_, fun m hm hm' x => ?_, fun a ha => ?_⟩
    · rw [hafter]
      exact h.here
    · rw [hafter]
      exact h.runner
    · exact h.template.trans (sameTemplate_of_beside (hname haccepts) hbeside)
    · by_cases heq : m = name
      · rw [heq]
        exact hproject x
      · have hold : m ∈ names := by simpa [heq] using hm
        rw [← h.project m hold hm']
        exact hbeside.get? _ fun hbelow => heq (prefix_place.1 hbelow).symm
    · rw [← h.elsewhere a fun m hm => ha m (List.mem_append_left _ hm)]
      exact hbeside.get? a (ha name (by simp) haccepts)

end Stands

/-- **After a sequence of projects** each is as if it had been made alone, and nothing else is
changed. -/
theorem stands_creates (hw : Grounds settings directory home w) (names : List Text)
    (hapart : ∀ name ∈ names, Apart settings tpl w.directory home name) :
    Stands settings directory tpl home w names (creates settings directory tpl names w) := by
  induction names using List.reverseRecOn with
  | nil => exact .nil
  | append_singleton names name ih =>
    rw [creates_append]
    exact (ih fun m hm => hapart m (List.mem_append_left _ hm)).concat hw hapart

/-- **Projects have nothing to do with each other.** Let projects be made one after the other on
`Grounds`, under any names and whatever their commands do, where the template overlaps no
project's place:

* at each point, where something stands in a project's place the project is refused, no command
  is run and no file is touched;
* from then on, whatever stands somewhere stays, and what was made under a name that was taken
  before stays as it is, with nothing more in it, also if it was not finished;
* a project whose place was free is there, unless its name or path is too long, and is the one
  that is made in its place in any workshop with the same template, whatever else is there;
* beside the projects nothing changes;
* the tree is the same for any sequence of the same names, so for every order of them, and for
  any commands. -/
theorem creates_apart (settings : ScaffoldSettings) (directory : Path) (tpl : Template)
    (names : List Text) (hw : Grounds settings directory home w)
    (hapart : ∀ name ∈ names, Apart settings tpl w.directory home name) :
    (∀ before rest c, names = before ++ rest → c = creates settings directory tpl before w →
      (∀ name, ProjectName.accepts name = true → c.files.get? (home ++ [name]) ≠ none →
        ∃ fault shown, create settings directory tpl name c =
          .error (.file fault) { c with shown := shown } ∧
            (¬ TooLong directory name → fault = .alreadyThere (directory.child name))) ∧
      (∀ a e, c.files.get? a = some e →
        (creates settings directory tpl names w).files.get? a = some e) ∧
      ∀ name ∈ before, ProjectName.accepts name = true → ∀ rel,
        (creates settings directory tpl names w).files.get? (home ++ [name] ++ rel) =
          c.files.get? (home ++ [name] ++ rel)) ∧
    (∀ name ∈ names, ProjectName.accepts name = true →
      w.files.get? (home ++ [name]) = none →
      (¬ TooLong directory name →
        (creates settings directory tpl names w).files.get? (home ++ [name]) =
          some .directory) ∧
      ∀ w', Grounds settings directory home w' → w'.directory = w.directory →
        SameTemplate w.directory (settings.templateDir.child tpl.directory) w.files w'.files →
        w'.files.get? (home ++ [name]) = none → ∀ rel,
          (creates settings directory tpl names w).files.get? (home ++ [name] ++ rel) =
            ((create settings directory tpl name).after w').files.get?
              (home ++ [name] ++ rel)) ∧
    (∀ a, (∀ name ∈ names, ProjectName.accepts name = true → ¬ home ++ [name] <+: a) →
      (creates settings directory tpl names w).files.get? a = w.files.get? a) ∧
    ∀ names' w', (∀ name, name ∈ names' ↔ name ∈ names) → w'.files = w.files →
      w'.directory = w.directory → w'.Untouching → ∀ a,
        (creates settings directory tpl names' w').files.get? a =
          (creates settings directory tpl names w).files.get? a := by
  have hstands := stands_creates hw names hapart
  refine ⟨fun before rest c hnames hc => ?_,
    fun name hname haccepts hnone => ⟨fun hshort => ?_, fun w' hw' hhere hsame hnone' rel => ?_⟩,
    hstands.elsewhere,
    fun names' w' hnames hfiles hhere huntouching a => ?_⟩
  · have hmem (name : Text) (hname : name ∈ before) : name ∈ names :=
      hnames ▸ List.mem_append_left _ hname
    have hapart' (name : Text) (hname : name ∈ before) := hapart name (hmem name hname)
    have hbefore := stands_creates hw before hapart'
    rw [← hc] at hbefore
    refine ⟨fun name haccepts hthere => ?_, hbefore.longer hw hstands hmem hapart⟩
    have hsite : Site c.directory directory home c.files :=
      hbefore.here.symm ▸ hbefore.site hw hapart'
    exact create_of_there settings tpl hsite haccepts hthere
  · have hproject := hstands.project name hname haccepts []
    rw [List.append_nil] at hproject
    rcases treeOf_cases hw haccepts (hapart name hname) with ⟨hrefused, -⟩ | ⟨-, hmatched⟩
    · exact absurd hshort (not_not.2 (hrefused.resolve_left fun hthere => hthere hnone))
    · rw [hproject, hmatched.there]
  · have hroom := hw'.room hnone'
    rw [hhere] at hroom
    rw [hstands.project name hname haccepts]
    exact ((treeOf_alike hw haccepts (hapart name hname) hw'.untouching hhere hnone hroom
      hsame).2 rel).symm
  · have hw' : Grounds settings directory home w' := by
      refine ⟨hw.named, huntouching, hfiles ▸ hw.rooted, ?_⟩
      rw [hhere, hfiles]
      exact hw.site
    refine hstands.order hw hapart hw' (stands_creates hw' names' fun name hname => ?_) hnames
      hfiles hhere a
    rw [hhere]
    exact hapart name ((hnames name).1 hname)

/-- The top of the small tree is a place for projects, and its templates are elsewhere. -/
theorem grounds_bench : Grounds trial ⟨.here, []⟩ [] bench where
  named := ⟨rfl, rfl, rfl⟩
  untouching _ _ _ := rfl
  rooted := rooted_seeds
  site := ⟨rfl, by cbv⟩

/-- There `p` is left without its packages and refused the second time, and `q` is the project
that it is alone; the other order leaves the same. -/
theorem creates_apart_again :
    (∃ shown, create trial ⟨.here, []⟩ .llmChat (text "p")
      (creates trial ⟨.here, []⟩ .llmChat [text "p"] bench) =
        .error (.file (.alreadyThere ⟨.here, [text "p"]⟩))
          { creates trial ⟨.here, []⟩ .llmChat [text "p"] bench with shown := shown }) ∧
    (∀ rel, (creates trial ⟨.here, []⟩ .llmChat [text "p", text "q", text "p"] bench).files.get?
        ([text "q"] ++ rel) =
      ((create trial ⟨.here, []⟩ .llmChat (text "q")).after bench).files.get?
        ([text "q"] ++ rel)) ∧
    ∀ a, (creates trial ⟨.here, []⟩ .llmChat [text "q", text "p"] bench).files.get? a =
      (creates trial ⟨.here, []⟩ .llmChat [text "p", text "q", text "p"] bench).files.get? a := by
  have hapart : ∀ name ∈ [text "p", text "q", text "p"], Apart trial .llmChat [] [] name := by
    intro name hname _
    rw [overlaps_iff (by decide)]
    revert name
    decide
  obtain ⟨hpoint, halone, -, horder⟩ := creates_apart (w := bench) trial ⟨.here, []⟩ .llmChat
    [text "p", text "q", text "p"] grounds_bench hapart
  refine ⟨?_, ?_, ?_⟩
  · obtain ⟨hrefused, -⟩ := hpoint [text "p"] [text "q", text "p"] _ rfl rfl
    have hthere : (creates trial ⟨.here, []⟩ .llmChat [text "p"] bench).files.get? [text "p"] =
        some .directory := by cbv
    obtain ⟨fault, shown, hcreate, hfault⟩ := hrefused (text "p") (by decide) (by
      rw [List.nil_append, hthere]
      simp)
    rw [hfault (by decide)] at hcreate
    exact ⟨shown, hcreate⟩
  · exact (halone (text "q") (by decide) (by decide) (by cbv)).2 bench grounds_bench rfl
      (.refl _ _ _) (by cbv)
  · refine horder [text "q", text "p"] bench (fun name => ?_) rfl rfl fun _ _ _ => rfl
    simp [or_comm]

end Project

end AgentWorkshop
