import AgentWorkshop.Proofs.Files.Copy

/-!
# What a copy reaches

Whatever the source and the goal have to do with each other, copying a tree changes nothing but
what stands below the goal under names that are not left out (`copyTree_sameBut`), and every file
of the source that stands under such names and outside of the goal arrives
(`copyTree_arrives`). It fails by depth only, and where the goal is not within the source only
if the source is that deep (`copyTree_error`).
-/

namespace AgentWorkshop

namespace Files

variable {ignored : Text → Bool} {goal a b : Address} {t t' u u' : FileTree} {name : Text}
variable {p q : Address → Prop} {e : Entry} {bytes : Bytes}

/-! ## Where a copy changes something -/

/-- Nothing is changed but at some addresses. -/
def SameBut (p : Address → Prop) (t t' : FileTree) : Prop :=
  ∀ b, ¬ p b → t'.get? b = t.get? b

theorem SameBut.refl (t : FileTree) : SameBut p t t :=
  fun _ _ => rfl

theorem SameBut.trans (h : SameBut p t u) (h' : SameBut p u t') : SameBut p t t' :=
  fun b hb => (h' b hb).trans (h b hb)

theorem SameBut.mono (h : SameBut p t t') (hpq : ∀ b, p b → q b) : SameBut q t t' :=
  fun b hb => h b (mt (hpq b) hb)

theorem sameBut_set (ha : p a) : SameBut p t (t.set a e) := by
  intro b hb
  refine FileTree.get?_set_of_ne ?_
  rintro rfl
  exact hb ha

/-- From an address down, under names that are not left out. -/
def Under (ignored : Text → Bool) (a b : Address) : Prop :=
  ∃ rel, b = a ++ rel ∧ rel.any ignored = false

/-- Below an address, likewise. -/
def Below (ignored : Text → Bool) (a b : Address) : Prop :=
  ∃ name, ignored name = false ∧ Under ignored (a ++ [name]) b

theorem under_self : Under ignored a a :=
  ⟨[], (List.append_nil a).symm, rfl⟩

theorem Below.under (h : Below ignored a b) : Under ignored a b := by
  obtain ⟨name, hname, rel, rfl, hrel⟩ := h
  exact ⟨name :: rel, by simp, by rw [List.any_cons, hname, hrel]; rfl⟩

/-- What stands below under names that are not left out. -/
theorem below_append_iff {rel : Address} :
    Below ignored a (a ++ rel) ↔ rel ≠ [] ∧ rel.any ignored = false := by
  constructor
  · rintro ⟨name, hname, rel', heq, hrel'⟩
    rw [List.append_assoc, List.append_cancel_left_eq] at heq
    rw [heq, List.singleton_append, List.any_cons, hname, hrel']
    exact ⟨List.cons_ne_nil _ _, rfl⟩
  · rintro ⟨hne, hrel⟩
    obtain ⟨name, rel, rfl⟩ := List.exists_cons_of_ne_nil hne
    rw [List.any_cons, Bool.or_eq_false_iff] at hrel
    exact ⟨name, hrel.1, rel, by simp, hrel.2⟩

theorem Under.isPrefix (h : Under ignored a b) : a <+: b := by
  obtain ⟨rel, rfl, -⟩ := h
  exact List.prefix_append _ _

/-- The goal itself is all that is opened. -/
theorem sameBut_opened (ignored : Text → Bool) (t : FileTree) (goal : Address) :
    SameBut (Under ignored goal) t (opened t goal) := by
  rw [opened]
  split
  · exact sameBut_set under_self
  · exact .refl t

variable {levels : Nat} {source target : Path} {sourceAddress : Address}
variable {faults : List EntryFault} {names : List Text}

/-- A copy with so many levels changes nothing but below its goal. -/
def StaysAt (ignored : Text → Bool) (levels : Nat) : Prop :=
  ∀ {source target : Path} {sourceAddress goal : Address} {t t' : FileTree}
    {faults : List EntryFault},
    copyTree ignored levels source target sourceAddress goal t = .ok faults t' →
    SameBut (Below ignored goal) (opened t goal) t'

/-- Then the copy of one name changes nothing but from that name down. -/
theorem copyEntry_sameBut (hlevels : StaysAt ignored levels)
    (hcopy : copyEntry ignored levels source target sourceAddress goal t name u =
      .ok faults u') : SameBut (Under ignored (goal ++ [name])) u u' := by
  rw [copyEntry] at hcopy
  cases hlong : overlong? (entryPath source name) (entryPath target name) with
  | some p =>
    rw [hlong] at hcopy
    cases hcopy
    exact .refl u
  | none =>
    rw [hlong] at hcopy
    dsimp only at hcopy
    rcases hentry : t.get? (sourceAddress ++ [name]) with _ | _ | contents <;>
      rw [hentry] at hcopy
    · exact (sameBut_opened ignored u _).trans ((hlevels hcopy).mono fun b => Below.under)
    · exact (sameBut_opened ignored u _).trans ((hlevels hcopy).mono fun b => Below.under)
    · cases hcopy
      exact sameBut_set under_self

/-- And so does the copy of several names. -/
theorem entries_sameBut (hlevels : StaysAt ignored levels)
    (hnames : ∀ name ∈ names, ignored name = false) {faults : List (List EntryFault)}
    (hcopy : names.mapM (copyEntry ignored levels source target sourceAddress goal t) u =
      .ok faults u') : SameBut (Below ignored goal) u u' := by
  refine Step.mapM_ok SameBut.refl SameBut.trans (fun name hname {u u' faults} hentry => ?_) hcopy
  exact (copyEntry_sameBut hlevels hentry).mono fun b hb => ⟨name, hnames name hname, hb⟩

/-- **A copy changes nothing but below its goal**, and there nothing under a name that is left
out. -/
theorem copyTree_sameBut (ignored : Text → Bool) (levels : Nat) : StaysAt ignored levels := by
  induction levels with
  | zero =>
    intro source target sourceAddress goal t t' faults hcopy
    cases hcopy
  | succ levels ih =>
    intro source target sourceAddress goal t t' faults hcopy
    rw [copyTree_apply, Step.bind_apply] at hcopy
    cases hnames : (copiedNames ignored t sourceAddress).mapM
        (copyEntry ignored levels source target sourceAddress goal t) (opened t goal) with
    | error f u =>
      rw [hnames] at hcopy
      cases hcopy
    | ok faults u =>
      rw [hnames] at hcopy
      cases hcopy
      exact entries_sameBut ih (fun name hname => (mem_copiedNames.1 hname).1) hnames

/-- Outside of the goal nothing is changed. -/
theorem SameBut.get?_outside (h : SameBut (Below ignored goal) (opened t goal) t')
    (hb : ¬ goal <+: b) : t'.get? b = t.get? b := by
  rw [h b fun hbelow => hb hbelow.under.isPrefix]
  exact sameBut_opened ignored t goal b fun hunder => hb hunder.isPrefix

/-! ## What arrives -/

/-- A file stands at an address below another one, with directories on the way. -/
structure Stored (t : FileTree) (top : Address) (rel : Address) (bytes : Bytes) : Prop where
  file : t.get? (top ++ rel) = some (.file bytes)
  way : ∀ front, front <+: rel → front ≠ rel → t.get? (top ++ front) = some .directory

theorem stored_of_rooted (hr : t.Rooted) {top rel : Address}
    (hfile : t.get? (top ++ rel) = some (.file bytes)) : Stored t top rel bytes := by
  refine ⟨hfile, ?_⟩
  rintro front ⟨rest, rfl⟩ hne
  have hrest : rest ≠ [] := by simpa using hne
  refine hr.get?_of_append hrest ?_
  rw [List.append_assoc, hfile]
  simp

/-- It still stands there if nothing on the way to it was changed. -/
theorem Stored.outside {top rel : Address} (h : Stored t top rel bytes)
    (hkept : ∀ b, ¬ goal <+: b → u.get? b = t.get? b) (hgoal : ¬ goal <+: top ++ rel) :
    Stored u top rel bytes := by
  refine ⟨by rw [hkept _ hgoal, h.file], fun front hfront hne => ?_⟩
  rw [hkept, h.way front hfront hne]
  exact fun hinside => hgoal (hinside.trans ((List.prefix_append_right_inj top).2 hfront))

theorem Stored.below {top rel : Address} (h : Stored t top (name :: rel) bytes) :
    Stored t (top ++ [name]) rel bytes := by
  refine ⟨by simpa using h.file, fun front hfront hne => ?_⟩
  simpa using h.way (name :: front) ((List.prefix_cons_inj name).2 hfront) (by simpa using hne)

/-- A copy with so many levels brings every file that it should. -/
def ArrivesAt (ignored : Text → Bool) (levels : Nat) : Prop :=
  ∀ {source target : Path} {sourceAddress goal rel : Address} {t t' : FileTree} {bytes : Bytes},
    copyTree ignored levels source target sourceAddress goal t = .ok [] t' →
    Stored t sourceAddress rel bytes → rel ≠ [] → rel.any ignored = false →
    ¬ goal <+: sourceAddress ++ rel → t'.get? (goal ++ rel) = some (.file bytes)

section
variable {rel : Address} (hlevels : ArrivesAt ignored levels)
variable (hstored : Stored t sourceAddress (name :: rel) bytes)
variable (hkept : (name :: rel).any ignored = false)
variable (hgoal : ¬ goal <+: sourceAddress ++ name :: rel)
include hlevels hstored hkept hgoal

/-- What stands under one name arrives when that name is copied. -/
theorem copyEntry_arrives (houtside : ∀ b, ¬ goal <+: b → u.get? b = t.get? b)
    (hcopy : copyEntry ignored levels source target sourceAddress goal t name u = .ok [] u') :
    u'.get? (goal ++ name :: rel) = some (.file bytes) := by
  rw [copyEntry] at hcopy
  cases hlong : overlong? (entryPath source name) (entryPath target name) with
  | some p =>
    rw [hlong] at hcopy
    cases hcopy
  | none =>
    rw [hlong] at hcopy
    dsimp only at hcopy
    by_cases hrel : rel = []
    · subst hrel
      rw [hstored.file] at hcopy
      cases hcopy
      exact FileTree.get?_set_self (by simp)
    · -- A directory of that name is on the way.
      rw [hstored.way [name] (by simp) (by simpa [eq_comm] using hrel)] at hcopy
      have hbelow := (hstored.outside houtside hgoal).below
      rw [List.any_cons, Bool.or_eq_false_iff] at hkept
      rw [List.append_cons] at hgoal ⊢
      refine hlevels hcopy hbelow hrel hkept.2 fun hinside => hgoal ?_
      exact (List.prefix_append goal [name]).trans hinside

/-- And stays when others are copied after it. -/
theorem entries_arrive (houtside : ∀ b, ¬ goal <+: b → u.get? b = t.get? b)
    (hthere : name ∈ names ∨ u.get? (goal ++ name :: rel) = some (.file bytes))
    {faults : List (List EntryFault)}
    (hcopy : names.mapM (copyEntry ignored levels source target sourceAddress goal t) u =
      .ok faults u') (hfaults : faults.flatten = []) :
    u'.get? (goal ++ name :: rel) = some (.file bytes) := by
  induction names generalizing u faults with
  | nil =>
    rw [List.mapM_nil] at hcopy
    cases hcopy
    exact hthere.resolve_left List.not_mem_nil
  | cons other names ih =>
    obtain ⟨fault, u₁, faults, hfirst, hrest, rfl⟩ := Step.mapM_cons_ok hcopy
    rw [List.flatten_cons, List.append_eq_nil_iff] at hfaults
    rw [hfaults.1] at hfirst
    have hsame := copyEntry_sameBut (copyTree_sameBut ignored levels) hfirst
    refine ih (fun b hb => ?_) ?_ hrest hfaults.2
    · rw [hsame b fun hunder => hb ?_, houtside b hb]
      exact (List.prefix_append _ _).trans hunder.isPrefix
    · by_cases hother : name = other
      · rw [← hother] at hfirst
        exact .inr (copyEntry_arrives hlevels hstored hkept hgoal houtside hfirst)
      · refine hthere.imp (fun hmem => (List.mem_cons.1 hmem).resolve_left hother) fun hfile => ?_
        rw [hsame _ fun hunder => hother ?_, hfile]
        obtain ⟨rel', hrel'⟩ := prefix_cons.1 hunder.isPrefix
        exact (List.cons.inj (List.append_cancel_left hrel')).1

end

/-- **A file of the source arrives**, unless it stands in the goal or under a name that is left
out. -/
theorem copyTree_arrives (ignored : Text → Bool) (levels : Nat) : ArrivesAt ignored levels := by
  induction levels with
  | zero =>
    intro source target sourceAddress goal rel t t' bytes hcopy
    cases hcopy
  | succ levels ih =>
    intro source target sourceAddress goal rel t t' bytes hcopy hstored hrel hkept hgoal
    rw [copyTree_apply, Step.bind_apply] at hcopy
    cases hnames : (copiedNames ignored t sourceAddress).mapM
        (copyEntry ignored levels source target sourceAddress goal t) (opened t goal) with
    | error f u =>
      rw [hnames] at hcopy
      cases hcopy
    | ok faults u =>
      rw [hnames] at hcopy
      obtain ⟨hfaults, rfl⟩ : faults.flatten = [] ∧ u = t' := by
        simpa using hcopy
      obtain ⟨name, rel, rfl⟩ := List.exists_cons_of_ne_nil hrel
      have hmem : name ∈ copiedNames ignored t sourceAddress := by
        rw [List.any_cons, Bool.or_eq_false_iff] at hkept
        refine mem_copiedNames.2 ⟨hkept.1, ?_⟩
        by_cases hlast : rel = []
        · subst hlast
          simp [hstored.file]
        · simp [hstored.way [name] (by simp) (by simpa [eq_comm] using hlast)]
      exact entries_arrive ih hstored hkept hgoal
        (fun b hb => sameBut_opened ignored t goal b fun h => hb h.isPrefix)
        (.inl hmem) hnames hfaults

/-! ## What does not -/

/-- So deep there is still a directory below, under names that are not left out. -/
def DeepAs (ignored : Text → Bool) (levels : Nat) (t : FileTree) (top : Address) : Prop :=
  ∃ rel, rel.length = levels ∧ rel.any ignored = false ∧ t.get? (top ++ rel) = some .directory

/-- **Copying a tree fails by depth only**, of the source itself unless the copy goes into
that. -/
theorem copyTree_error {f : Failure}
    (hcopy : copyTree ignored levels source target sourceAddress goal t = .error f t') :
    f = .deepTree ∧ ((∀ x y, sourceAddress ++ x ≠ goal ++ y) →
      t.get? sourceAddress = some .directory ∨ 0 < levels →
        DeepAs ignored levels t sourceAddress) := by
  induction levels generalizing source target sourceAddress goal t t' with
  | zero =>
    cases hcopy
    refine ⟨rfl, fun _ hsource => ⟨[], rfl, rfl, ?_⟩⟩
    rw [List.append_nil]
    exact hsource.resolve_right (Nat.not_lt_zero 0)
  | succ levels ih =>
    rw [copyTree_apply, Step.bind_apply] at hcopy
    cases hnames : (copiedNames ignored t sourceAddress).mapM
        (copyEntry ignored levels source target sourceAddress goal t) (opened t goal) with
    | ok faults u =>
      rw [hnames] at hcopy
      cases hcopy
    | error g u =>
      rw [hnames] at hcopy
      cases hcopy
      obtain ⟨before, name, after, faults, u₁, hsplit, hbefore, hentry⟩ := Step.mapM_error hnames
      have hmem : name ∈ copiedNames ignored t sourceAddress := by
        rw [hsplit]
        simp
      obtain ⟨hname, hthere⟩ := mem_copiedNames.1 hmem
      -- The names before it left the source as it was.
      have hsame : SameBut (Below ignored goal) (opened t goal) u₁ := by
        refine entries_sameBut (copyTree_sameBut ignored levels) (fun other hother => ?_) hbefore
        have hcopied : other ∈ copiedNames ignored t sourceAddress := by
          rw [hsplit]
          exact List.mem_append_left _ hother
        exact (mem_copiedNames.1 hcopied).1
      rw [copyEntry] at hentry
      cases hlong : overlong? (entryPath source name) (entryPath target name) with
      | some p =>
        rw [hlong] at hentry
        cases hentry
      | none =>
        rw [hlong] at hentry
        dsimp only at hentry
        rcases hkind : t.get? (sourceAddress ++ [name]) with _ | _ | contents <;>
          rw [hkind] at hentry
        · exact absurd hkind hthere
        · obtain ⟨rfl, hdeep⟩ := ih hentry
          refine ⟨rfl, fun hapart _ => ?_⟩
          have hkept (rel : Address) :
              u₁.get? (sourceAddress ++ name :: rel) = t.get? (sourceAddress ++ name :: rel) := by
            refine hsame.get?_outside ?_
            rintro ⟨y, hy⟩
            exact hapart _ _ hy.symm
          obtain ⟨rel, hlength, hrel, hdirectory⟩ := hdeep
            (fun x y => by simpa using hapart (name :: x) (name :: y))
            (.inl (by rw [hkept [], hkind]))
          refine ⟨name :: rel, by rw [List.length_cons, hlength], ?_, ?_⟩
          · rw [List.any_cons, hname, hrel]
            rfl
          · rw [← hkept, List.append_cons]
            exact hdirectory
        · cases hentry

end Files

end AgentWorkshop
