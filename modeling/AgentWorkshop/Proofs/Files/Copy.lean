import AgentWorkshop.Files.Copy
import AgentWorkshop.Proofs.Files.Directories

/-!
# What a copy holds

A tree that was copied holds at the goal, name for name, what stands at the source, without
the names that are left out; nothing else changes (`copyTree_ok`). The copy goes through the
names of one directory after the other, and after some of them what stands at the goal is
either as it will be or not there yet (`Copying`).
-/

namespace AgentWorkshop

namespace FileTree

variable {t : FileTree} {d : Address} {n : Text}

/-- **The names in a directory** are those under which something stands in it. -/
theorem mem_names : n ∈ t.names d ↔ t.get? (d ++ [n]) ≠ none := by
  rw [get?_ne_none_iff (by simp), names, under, List.filterMap_filterMap, List.mem_filterMap]
  constructor
  · rintro ⟨⟨a, e⟩, hmem, ha⟩
    dsimp only at ha
    rcases hstart : d.isPrefixOf? a with _ | _ | ⟨m, _ | ⟨m', rest⟩⟩ <;> rw [hstart] at ha <;>
      cases ha
    rw [List.isPrefixOf?_eq_some_iff_append_eq] at hstart
    exact ⟨e, by rwa [hstart]⟩
  · rintro ⟨e, hmem⟩
    have hstart : d.isPrefixOf? (d ++ [n]) = some [n] :=
      List.isPrefixOf?_eq_some_iff_append_eq.2 rfl
    refine ⟨_, hmem, ?_⟩
    simp only [hstart]
    rfl

end FileTree

namespace Files

variable {ignored : Text → Bool} {src : Address → Option Entry} {goal : Address}
variable {t t' u u' : FileTree} {name : Text}

/-! ## What is copied -/

/-- What a copy holds: the entries of the source, without the names that are left out. -/
def kept (ignored : Text → Bool) (src : Address → Option Entry) (rel : Address) : Option Entry :=
  if rel.any ignored then none else src rel

/-- Whatever stands in the source stands in a directory of it. -/
def Closed (src : Address → Option Entry) : Prop :=
  ∀ rel n, src (rel ++ [n]) ≠ none → src rel = some .directory

theorem Closed.below (h : Closed src) : Closed fun rel => src (name :: rel) :=
  fun rel n => h (name :: rel) n

/-- Below what is no directory there is nothing. -/
theorem Closed.eq_none (h : Closed src) (hname : src [name] ≠ some .directory) {rel : Address}
    (hrel : rel ≠ []) : src (name :: rel) = none := by
  induction rel using List.reverseRecOn with
  | nil => exact absurd rfl hrel
  | append_singleton rel n ih =>
    by_contra hthere
    have hdirectory := h (name :: rel) n hthere
    by_cases hnil : rel = []
    · rw [hnil] at hdirectory
      exact hname hdirectory
    · rw [ih hnil] at hdirectory
      cases hdirectory

/-- So nothing is copied of what is not there. -/
theorem Closed.kept_eq_none (h : Closed src) (hname : src [name] = none) (rel : Address) :
    kept ignored src (name :: rel) = none := by
  have hnone : src (name :: rel) = none := by
    by_cases hrel : rel = []
    · rw [hrel, hname]
    · exact h.eq_none (by rw [hname]; simp) hrel
  rw [kept, hnone]
  split <;> rfl

/-- Below the goal nothing is there that the copy will not hold. -/
def Begun (ignored : Text → Bool) (src : Address → Option Entry) (goal : Address)
    (t : FileTree) : Prop :=
  ∀ rel, rel ≠ [] → t.get? (goal ++ rel) = none ∨ t.get? (goal ++ rel) = kept ignored src rel

/-- The names in `done` are copied, and nothing but the goal was touched. -/
structure Copying (ignored : Text → Bool) (src : Address → Option Entry) (goal : Address)
    (t : FileTree) (done : List Text) (u : FileTree) : Prop where
  outside : ∀ b, ¬ goal <+: b → u.get? b = t.get? b
  there : u.get? goal = some .directory
  begun : Begun ignored src goal u
  done : ∀ n ∈ done, ∀ rel, u.get? (goal ++ n :: rel) = kept ignored src (n :: rel)

/-- The goal holds the copy, and nothing else was touched. -/
structure Copied (ignored : Text → Bool) (src : Address → Option Entry) (goal : Address)
    (t t' : FileTree) : Prop where
  outside : ∀ b, ¬ goal <+: b → t'.get? b = t.get? b
  there : t'.get? goal = some .directory
  copy : ∀ rel, rel ≠ [] → t'.get? (goal ++ rel) = kept ignored src rel

/-- A name that is copied in its turn. -/
theorem kept_cons (hname : ignored name = false) (rel : Address) :
    kept ignored src (name :: rel) = kept ignored (fun rel => src (name :: rel)) rel := by
  rw [kept, kept, List.any_cons, hname, Bool.false_or]

/-- An address below the goal starts with the goal and a name. -/
theorem prefix_cons {b : Address} : goal ++ [name] <+: b ↔ ∃ rel, b = goal ++ name :: rel := by
  constructor
  · rintro ⟨rel, rfl⟩
    exact ⟨rel, by simp⟩
  · rintro ⟨rel, rfl⟩
    exact ⟨rel, by simp⟩

variable {done : List Text}

/-- **One name more is copied** once what stands under it is as it will be. -/
theorem Copying.concat (h : Copying ignored src goal t done u)
    (houtside : ∀ b, ¬ goal ++ [name] <+: b → u'.get? b = u.get? b)
    (hname : ∀ rel, u'.get? (goal ++ name :: rel) = kept ignored src (name :: rel)) :
    Copying ignored src goal t (done ++ [name]) u' where
  outside b hb := by
    rw [houtside b fun hbelow => hb ((List.prefix_append _ _).trans hbelow), h.outside b hb]
  there := by
    rw [houtside goal fun hbelow => ?_, h.there]
    obtain ⟨rel, hrel⟩ := prefix_cons.1 hbelow
    simp at hrel
  begun rel hrel := by
    obtain ⟨n, rel, rfl⟩ := List.exists_cons_of_ne_nil hrel
    by_cases hn : n = name
    · rw [hn]
      exact .inr (hname rel)
    · rw [houtside _ fun hbelow => ?_]
      · exact h.begun _ hrel
      · obtain ⟨rel', hrel'⟩ := prefix_cons.1 hbelow
        simp_all
  done n hn rel := by
    by_cases heq : n = name
    · rw [heq]
      exact hname rel
    · rw [houtside _ fun hbelow => ?_]
      · refine h.done n ?_ rel
        simpa [heq] using hn
      · obtain ⟨rel', hrel'⟩ := prefix_cons.1 hbelow
        simp_all

/-! ## The copy of a tree -/

/-- The copy of what stands under one name of a directory that was listed. -/
def copyEntry (ignored : Text → Bool) (levels : Nat) (source goal : Path)
    (sourceAddress goalAddress : Address) (listed : FileTree) (name : Text) :
    FileAction (List EntryFault) :=
  match overlong? (entryPath source name) (entryPath goal name) with
  | some p => pure [⟨entryPath source name, entryPath goal name, .ofErrno .nameTooLong p.toText⟩]
  | none =>
    match listed.get? (sourceAddress ++ [name]) with
    | some (.file contents) => do
      modify (·.set (goalAddress ++ [name]) (.file contents))
      return []
    | _ => copyTree ignored levels (entryPath source name) (entryPath goal name)
        (sourceAddress ++ [name]) (goalAddress ++ [name])

/-- The tree with a directory at the goal. -/
def opened (t : FileTree) (goal : Address) : FileTree :=
  if (t.get? goal).isNone then t.set goal .directory else t

theorem copyTree_apply (levels : Nat) (source goal : Path) (sourceAddress goalAddress : Address)
    (t : FileTree) :
    copyTree ignored (levels + 1) source goal sourceAddress goalAddress t =
      (do
        let faults ← (copiedNames ignored t sourceAddress).mapM
          (copyEntry ignored levels source goal sourceAddress goalAddress t)
        return faults.flatten : FileAction _) (opened t goalAddress) := by
  rw [copyTree, Step.bind_apply, Step.get_apply, opened]
  dsimp only
  by_cases hnone : (t.get? goalAddress).isNone = true
  · rw [if_pos hnone, if_pos hnone]
    rfl
  · rw [if_neg hnone, if_neg hnone]
    rfl

/-- A name is copied that is neither left out nor unused. -/
theorem mem_copiedNames {d : Address} : name ∈ copiedNames ignored t d ↔
    ignored name = false ∧ t.get? (d ++ [name]) ≠ none := by
  rw [copiedNames, List.mem_filter, List.mem_reverse, FileTree.mem_names, Bool.not_eq_true',
    and_comm]

section
variable {levels : Nat} {source target : Path} {sourceAddress : Address}
variable {names : List Text}

/-- A copy with so many levels does what it should. -/
def CopiesAt (ignored : Text → Bool) (levels : Nat) : Prop :=
  ∀ {source target : Path} {sourceAddress goal : Address} {src : Address → Option Entry}
    {t t' : FileTree}, Closed src → (∀ rel, t.get? (sourceAddress ++ rel) = src rel) →
    (∀ x y, sourceAddress ++ x ≠ goal ++ y) →
    (t.get? goal = none ∨ t.get? goal = some .directory) → Begun ignored src goal t →
    copyTree ignored levels source target sourceAddress goal t = .ok [] t' →
    Copied ignored src goal t t'

/-- A file is copied at once; nothing is copied below it. -/
theorem Copying.file (h : Copying ignored src goal t done u) (hclosed : Closed src)
    (hname : ignored name = false) {contents : Bytes} (hfile : src [name] = some (.file contents)) :
    Copying ignored src goal t (done ++ [name]) (u.set (goal ++ [name]) (.file contents)) := by
  refine h.concat (fun b hb => FileTree.get?_set_of_ne ?_) fun rel => ?_
  · rintro rfl
    exact hb List.prefix_rfl
  by_cases hrel : rel = []
  · rw [hrel, FileTree.get?_set_self (by simp), kept_cons hname, kept]
    exact hfile.symm
  · have hnone : kept ignored src (name :: rel) = none := by
      rw [kept, hclosed.eq_none (by rw [hfile]; simp) hrel]
      split <;> rfl
    rw [FileTree.get?_set_of_ne (by simpa using hrel)]
    rcases h.begun (name :: rel) (List.cons_ne_nil _ _) with hbegun | hbegun
    · rw [hbegun, hnone]
    · exact hbegun

/-- A directory is copied with all that is below it. -/
theorem Copying.directory (hlevels : CopiesAt ignored levels)
    (h : Copying ignored src goal t done u) (hclosed : Closed src)
    (hsrc : ∀ rel, t.get? (sourceAddress ++ rel) = src rel)
    (hapart : ∀ x y, sourceAddress ++ x ≠ goal ++ y) (hname : ignored name = false)
    (hdirectory : src [name] = some .directory)
    (hcopy : copyTree ignored levels source target (sourceAddress ++ [name]) (goal ++ [name]) u =
      .ok [] u') :
    Copying ignored src goal t (done ++ [name]) u' := by
  have hself : kept ignored src [name] = some .directory := by
    rw [kept_cons hname, kept]
    exact hdirectory
  have hsource : ∀ rel, u.get? (sourceAddress ++ [name] ++ rel) = src (name :: rel) := by
    intro rel
    rw [List.append_assoc, List.singleton_append, h.outside _ ?_, hsrc]
    rintro ⟨y, hy⟩
    exact hapart _ _ hy.symm
  have hbegun : Begun ignored (fun rel => src (name :: rel)) (goal ++ [name]) u := by
    intro rel _
    rw [List.append_assoc, List.singleton_append, ← kept_cons hname]
    exact h.begun _ (List.cons_ne_nil _ _)
  have hstart : u.get? (goal ++ [name]) = none ∨ u.get? (goal ++ [name]) = some .directory := by
    rw [← hself]
    exact h.begun _ (List.cons_ne_nil _ _)
  have hcopied := hlevels hclosed.below hsource
    (fun x y => by simpa using hapart (name :: x) (name :: y)) hstart hbegun hcopy
  refine h.concat hcopied.outside fun rel => ?_
  by_cases hrel : rel = []
  · rw [hrel, hcopied.there, hself]
  · have hcopy := hcopied.copy rel hrel
    rwa [List.append_assoc, List.singleton_append, ← kept_cons hname] at hcopy

/-- **One name is copied**, a file at once and a directory level by level. -/
theorem Copying.entry (hlevels : CopiesAt ignored levels)
    (h : Copying ignored src goal t done u) (hclosed : Closed src)
    (hsrc : ∀ rel, t.get? (sourceAddress ++ rel) = src rel)
    (hapart : ∀ x y, sourceAddress ++ x ≠ goal ++ y) (hname : ignored name = false)
    (hthere : src [name] ≠ none)
    (hcopy : copyEntry ignored levels source target sourceAddress goal t name u = .ok [] u') :
    Copying ignored src goal t (done ++ [name]) u' := by
  rw [copyEntry] at hcopy
  cases hlong : overlong? (entryPath source name) (entryPath target name) with
  | some p =>
    rw [hlong] at hcopy
    cases hcopy
  | none =>
    rw [hlong, hsrc] at hcopy
    dsimp only at hcopy
    rcases hentry : src [name] with _ | _ | contents <;> rw [hentry] at hcopy
    · exact absurd hentry hthere
    · exact Copying.directory hlevels h hclosed hsrc hapart hname hentry hcopy
    · cases hcopy
      exact h.file hclosed hname hentry

/-- **Names are copied one after the other.** -/
theorem Copying.entries (hlevels : CopiesAt ignored levels)
    (h : Copying ignored src goal t done u) (hclosed : Closed src)
    (hsrc : ∀ rel, t.get? (sourceAddress ++ rel) = src rel)
    (hapart : ∀ x y, sourceAddress ++ x ≠ goal ++ y)
    (hnames : ∀ n ∈ names, ignored n = false ∧ src [n] ≠ none) {faults : List (List EntryFault)}
    (hcopy : names.mapM (copyEntry ignored levels source target sourceAddress goal t) u =
      .ok faults u') (hfaults : faults.flatten = []) :
    Copying ignored src goal t (done ++ names) u' := by
  induction names generalizing done u faults with
  | nil =>
    rw [List.mapM_nil] at hcopy
    cases hcopy
    rwa [List.append_nil]
  | cons name names ih =>
    rw [List.forall_mem_cons] at hnames
    obtain ⟨fault, u₁, rest, hfirst, hrest, rfl⟩ := Step.mapM_cons_ok hcopy
    rw [List.flatten_cons, List.append_eq_nil_iff] at hfaults
    rw [hfaults.1] at hfirst
    have hnext := Copying.entry hlevels h hclosed hsrc hapart hnames.1.1 hnames.1.2 hfirst
    have hall := ih hnext hnames.2 hrest hfaults.2
    rwa [List.append_assoc, List.singleton_append] at hall

/-- A directory at the goal is all that is needed to start. -/
theorem copying_opened (hgoal : t.get? goal = none ∨ t.get? goal = some .directory)
    (hbegun : Begun ignored src goal t) : Copying ignored src goal t [] (opened t goal) := by
  rw [opened]
  rcases hgoal with hnone | hthere
  · have hne : goal ≠ [] := by
      rintro rfl
      cases hnone
    rw [hnone, Option.isNone_none, if_pos rfl]
    have hother {b : Address} (hb : b ≠ goal) : (t.set goal .directory).get? b = t.get? b :=
      FileTree.get?_set_of_ne hb
    refine ⟨fun b hb => hother ?_, FileTree.get?_set_self hne, fun rel hrel => ?_, by simp⟩
    · rintro rfl
      exact hb List.prefix_rfl
    · rw [hother (by simpa using hrel)]
      exact hbegun rel hrel
  · rw [hthere]
    exact ⟨fun _ _ => rfl, hthere, hbegun, by simp⟩

/-- **A tree is copied.** Unless a path gets too long or there are too many levels, the goal
holds every entry of the source but those under names that are left out. -/
theorem copyTree_ok (ignored : Text → Bool) (levels : Nat) : CopiesAt ignored levels := by
  -- The names of the source are all done in the end, and under any other name nothing was
  -- there to copy.
  induction levels with
  | zero =>
    intro source target sourceAddress goal src t t' _ _ _ _ _ hcopy
    cases hcopy
  | succ levels ih =>
    intro source target sourceAddress goal src t t' hclosed hsrc hapart hgoal hbegun hcopy
    rw [copyTree_apply, Step.bind_apply] at hcopy
    cases hnames : (copiedNames ignored t sourceAddress).mapM
        (copyEntry ignored levels source target sourceAddress goal t) (opened t goal) with
    | error f u =>
      rw [hnames] at hcopy
      cases hcopy
    | ok faults u =>
      rw [hnames] at hcopy
      obtain ⟨hfaults, rfl⟩ : faults.flatten = [] ∧ u = t' := by
        simpa using hcopy
      have hmem (n : Text) : n ∈ copiedNames ignored t sourceAddress ↔
          ignored n = false ∧ src [n] ≠ none := by
        rw [mem_copiedNames, hsrc]
      have hall := Copying.entries ih (copying_opened hgoal hbegun) hclosed hsrc hapart
        (fun n hn => (hmem n).1 hn) hnames hfaults
      rw [List.nil_append] at hall
      refine ⟨hall.outside, hall.there, fun rel hrel => ?_⟩
      obtain ⟨n, rel, rfl⟩ := List.exists_cons_of_ne_nil hrel
      by_cases hn : n ∈ copiedNames ignored t sourceAddress
      · exact hall.done n hn rel
      · -- Under a name that is left out or unused nothing is copied.
        have hnone : kept ignored src (n :: rel) = none := by
          rw [hmem, not_and_or, Bool.not_eq_false, not_not] at hn
          rcases hn with hleft | hunused
          · rw [kept, List.any_cons, hleft]
            rfl
          · exact hclosed.kept_eq_none hunused rel
        rcases hall.begun _ hrel with hnot | hkept
        · rw [hnot, hnone]
        · exact hkept

end

/-- **A file is copied.** The file of the goal is filled with what the source holds. -/
theorem copyFile_ok {here : Address} {source target : Path}
    (h : copyFile here source target t = .ok (.ok ()) t') :
    ∃ bytes a, contents t here source = .ok bytes ∧ destination t here target = .ok a ∧
      t' = t.fill a bytes := by
  rw [copyFile] at h
  by_cases hnull : source.hasNull = true
  · rw [if_pos hnull] at h
    cases h
  rw [if_neg hnull] at h
  simp only [Step.bind_apply, Step.get_apply] at h
  by_cases hsame : sameEntry here source target t = true
  · rw [if_pos hsame] at h
    cases h
  rw [if_neg hsame] at h
  simp only [Step.pure_apply, catch_apply, Step.bind_apply, read_apply, write, target_apply] at h
  cases hread : contents t here source with
  | error f =>
    rw [hread] at h
    cases f <;> cases h
  | ok bytes =>
    rw [hread] at h
    dsimp only at h
    cases hwrite : destination t here target with
    | error f =>
      rw [hwrite] at h
      cases f <;> cases h
    | ok a =>
      rw [hwrite] at h
      cases h
      exact ⟨bytes, a, rfl, rfl, rfl⟩

/-- **Copying a file is answered for**, whether it is copied or not. -/
theorem copyFile_answers (here : Address) {source target : Path} (hsource : source.hasNull = false)
    (htarget : target.hasNull = false) (t : FileTree) :
    ∃ answer t', copyFile here source target t = .ok answer t' := by
  rw [copyFile, hsource, if_neg Bool.false_ne_true]
  simp only [Step.bind_apply, Step.get_apply]
  by_cases hsame : sameEntry here source target t = true
  · rw [if_pos hsame]
    exact ⟨_, t, rfl⟩
  rw [if_neg hsame]
  simp only [Step.pure_apply, catch_apply, Step.bind_apply, read_apply, write, target_apply]
  cases hread : contents t here source with
  | error f =>
    obtain ⟨e, rfl⟩ := contents_error hsource hread
    exact ⟨_, t, rfl⟩
  | ok bytes =>
    dsimp only
    cases hwrite : destination t here target with
    | error f =>
      obtain ⟨e, rfl⟩ := destination_error htarget hwrite
      exact ⟨_, t, rfl⟩
    | ok a => exact ⟨_, _, rfl⟩

end Files

end AgentWorkshop
